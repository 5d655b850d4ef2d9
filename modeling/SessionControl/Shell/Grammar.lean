import SessionControl.Shell.Words

set_option autoImplicit false

/-! # Reading commands

The grammar of scripts, from tokens to commands. A script is read one complete command at a time, so
that what stands behind a faulty one has no effect on those before it. The reader is tied together
over a measure of depth: each construct gets a reader for what is inside it. -/

namespace SessionControl.Shell

namespace Token

/-- What a token is called in a complaint. -/
def title : Token → String
  | finish => "end of file"
  | newline => "newline"
  | semicolon => "\";\""
  | doubleSemicolon => "\";;\""
  | ampersand => "\"&\""
  | andIf => "\"&&\""
  | bar => "\"|\""
  | orIf => "\"||\""
  | leftParen => "\"(\""
  | rightParen => "\")\""
  | redirect _ _ => "redirection"
  | word _ => "word"

end Token

namespace Grammar

/-! ## Tokens -/

/-- The words that have a meaning of their own at the beginning of a command. -/
def keywords : List String :=
  ["!", "case", "do", "done", "elif", "else", "esac", "fi", "for", "if", "in", "then", "until",
   "while", "\x7b", "\x7d"]

/-- The keywords that end a list of commands. -/
def closers : List String := ["do", "done", "elif", "else", "esac", "fi", "then", "\x7d"]

/-- The keyword that a token is, where keywords are expected. -/
def keyword? : Token → Option String
  | .word w =>
    match Word.literal? w with
    | some bytes => keywords.find? fun k => k.toList = bytes
    | none => none
  | _ => none

/-- What a token is called in a complaint, where keywords are expected. -/
def titleOf (t : Token) : String :=
  match keyword? t with
  | some k => "\"" ++ k ++ "\""
  | none => t.title

/-- Refuses a token, where another may have been expected. -/
def unexpected {α : Type} (t : Token) (expected : Option String) : Reader α :=
  Reader.refuse (titleOf t ++ " unexpected" ++
    match expected with
    | some e => " (expecting \"" ++ e ++ "\")"
    | none => "")

/-- What is given to the reader of a construct: a reader of the commands inside it, which may be none
    at all, and a reader of a single command. -/
structure Inner where
  block : (mayBeEmpty : Bool) → Reader (Option Command)
  command : Reader Command

/-- Passes over blanks and a comment. -/
def skipBlanks : Nat → Reader Unit
  | 0 => return ()
  | fuel + 1 => do
    match ← Reader.peek with
    | some c =>
      if Ascii.isBlank c then
        Reader.skip
        skipBlanks fuel
      else if c = '#' then
        let rest := (← get).rest
        modify fun i => { i with rest := rest.dropWhile (· ≠ '\n') }
      else return ()
    | none => return ()

/-- Reads a sign of one or two characters, which is a token by itself. -/
def doubled (c : Char) (one two : Token) : Reader Token := do
  Reader.skip
  return if ← Reader.take? c then two else one

/-- Reads the sign of a redirection. -/
def redirectionSign : Reader String := do
  match ← Reader.peek with
  | some '<' =>
    Reader.skip
    if ← Reader.take? '<' then
      return if ← Reader.take? '-' then "<<-" else "<<"
    else if ← Reader.take? '&' then return "<&"
    else if ← Reader.take? '>' then return "<>"
    else return "<"
  | _ =>
    Reader.skip
    if ← Reader.take? '>' then return ">>"
    else if ← Reader.take? '&' then return ">&"
    else if ← Reader.take? '|' then return ">|"
    else return ">"

/-- The commands up to the closing parenthesis of a substitution. -/
def substitution (inner : Inner) (token : Reader Token) : Reader (Option Command) := do
  let c ← inner.block true
  match ← token with
  | .rightParen => return c
  | t => unexpected t (some ")")

/-- Reads a word, or a redirection with a digit in front. -/
def wordToken (nested : Word.Nested) : Reader Token := do
  let w ← Word.parts nested .word false (2 * (← Reader.fuel)) 0 []
  match Word.literal? w, ← Reader.peekRaw with
  | some [d], some c =>
    if Ascii.isDigit d ∧ (c = '<' ∨ c = '>') then
      return .redirect (some (d.toNat - 48)) (← redirectionSign)
    else return .word w
  | _, _ => return .word w

/-- The next token. -/
def freshToken (nested : Word.Nested) : Reader Token := do
  skipBlanks (← Reader.fuel)
  match ← Reader.peek with
  | none => return .finish
  | some '\n' =>
    Reader.skip
    return .newline
  | some '&' => doubled '&' .ampersand .andIf
  | some '|' => doubled '|' .bar .orIf
  | some ';' => doubled ';' .semicolon .doubleSemicolon
  | some '(' =>
    Reader.skip
    return .leftParen
  | some ')' =>
    Reader.skip
    return .rightParen
  | some c =>
    if c = '<' ∨ c = '>' then return .redirect none (← redirectionSign)
    else wordToken nested

/-- A closing parenthesis, or what stands in its place, where no word is expected. -/
def closingToken : Reader Token := do
  match (← get).waiting with
  | some t =>
    modify fun i => { i with waiting := none }
    return t
  | none => 
    let refuse : Reader (Option Command) := Reader.refuse "word unexpected (expecting \")\")"
    freshToken ⟨refuse, refuse⟩

/-- The next token, or the one that was put back. -/
def token (inner : Inner) : Reader Token := do
  match (← get).waiting with
  | some t =>
    modify fun i => { i with waiting := none }
    return t
  | none => freshToken ⟨substitution inner closingToken, inner.block true⟩

/-- Puts a token back. -/
def putBack (t : Token) : Reader Unit := modify fun i => { i with waiting := some t }

/-- The next token that is no line end. -/
def tokenPastLines (inner : Inner) : Nat → Reader Token
  | 0 => token inner
  | fuel + 1 => do
    match ← token inner with
    | .newline => tokenPastLines inner fuel
    | t => return t

/-- Passes over line ends. -/
def skipLines (inner : Inner) : Reader Unit := do
  putBack (← tokenPastLines inner (← Reader.fuel))

/-- Takes a keyword. -/
def expectKeyword (inner : Inner) (k : String) : Reader Unit := do
  let t ← token inner
  if keyword? t = some k then return () else unexpected t (some k)

/-! ## Redirections -/

/-- Cuts the text of a here document off the lines: up to a line that is the delimiter alone. Also
    told is how many lines it takes. -/
def hereLines (delimiter : Bytes) (strips : Bool) : List Bytes → Bytes × Nat × List Bytes
  | [] => ([], 0, [])
  | line :: rest =>
    let line := if strips then line.dropWhile (· = '\t') else line
    if line = delimiter ∨ line = delimiter ++ ['\n'] then ([], 1, rest)
    else
      let (text, n, rest) := hereLines delimiter strips rest
      (line ++ text, n + 1, rest)

/-- Reads a here document, whose text begins on the next line. -/
def hereDocument (nested : Word.Nested) (delimiter : Word) (strips : Bool) : Reader Word := do
  let i ← get
  let line := i.rest.takeWhile (· ≠ '\n')
  let after := (i.rest.drop line.length).drop 1
  let (text, n, rest) :=
    hereLines (Word.unquoted delimiter) strips (Bytes.linesWithEnds after)
  set { i with rest := line ++ '\n' :: rest.flatten, linesAhead := i.linesAhead + n }
  if Word.isQuoted delimiter then return [.text true text]
  else Reader.onInput i.line text (Word.parts nested .finish true (2 * text.length + 2) 0 [])

/-- Reads a redirection behind its sign. -/
def redirection (inner : Inner) (descriptor : Option Nat) (sign : String) :
    Reader Redirection := do
  let input (s : Source) : Redirection := .mk (descriptor.getD 0) s
  let output (s : Source) : Redirection := .mk (descriptor.getD 1) s
  match ← token inner with
  | .word w =>
    match sign with
    | "<" => return input (.path .input w)
    | "<>" => return input (.path .both w)
    | "<&" => return input (.duplicate w)
    | ">" => return output (.path .output w)
    | ">|" => return output (.path .always w)
    | ">>" => return output (.path .append w)
    | ">&" => return output (.duplicate w)
    | _ =>
      return input (.here (← hereDocument ⟨substitution inner closingToken, inner.block true⟩ w (sign = "<<-")))
  | t => unexpected t none

/-- Reads redirections as long as there are any. -/
def redirections (inner : Inner) : Nat → Reader (List Redirection)
  | 0 => return []
  | fuel + 1 => do
    match ← token inner with
    | .redirect d sign =>
      let r ← redirection inner d sign
      return r :: (← redirections inner fuel)
    | t =>
      putBack t
      return []

/-! ## Simple commands -/

/-- The built-in commands whose names no function can have. -/
def reservedNames : List String :=
  [".", ":", "break", "continue", "eval", "exec", "exit", "export", "readonly", "return", "set",
   "shift", "times", "trap", "unset"]

/-- Whether a function can have this name. -/
def isFunctionName (w : Word) : Bool :=
  match Word.literal? w with
  | some bytes => Ascii.isName bytes && !reservedNames.any fun n => n.toList = bytes
  | none => false

/-- The parts of a simple command that were read. -/
structure Collected where
  assignments : List (Name × Word) := []
  words : List Word := []
  redirections : List Redirection := []

/-- Reads the words of a simple command. A single word with parentheses behind it begins the
    definition of a function. -/
def simpleWith (inner : Inner) (line : Nat) : Nat → Collected → Reader Command
  | 0, c => return .simple line c.assignments c.words c.redirections
  | fuel + 1, c => do
    let t ← token inner
    match t with
    | .word w =>
      match c.words, Word.assignment? w with
      | [], some a =>
        simpleWith inner line fuel { c with assignments := c.assignments ++ [a] }
      | _, _ => simpleWith inner line fuel { c with words := c.words ++ [w] }
    | .redirect d sign =>
      let r ← redirection inner d sign
      simpleWith inner line fuel { c with redirections := c.redirections ++ [r] }
    | .leftParen =>
      match c with
      | ⟨[], [w], []⟩ =>
        match ← token inner with
        | .rightParen =>
          if isFunctionName w then
            skipLines inner
            return .define line (Word.unquoted w) (← inner.command)
          else Reader.refuse "Bad function name"
        | t => unexpected t (some ")")
      | _ =>
        putBack t
        return .simple line c.assignments c.words c.redirections
    | t =>
      putBack t
      return .simple line c.assignments c.words c.redirections

/-! ## Compound commands -/

/-- Reads a list of commands that must not be empty. At the end of the script it is: what has to come
    behind the list will be missed then. -/
def required (inner : Inner) : Reader Command := do
  match ← inner.block false with
  | some c => return c
  | none =>
    match ← token inner with
    | .finish =>
      putBack .finish
      return .simple 0 [] [] []
    | t => unexpected t none

/-- Reads what follows the condition of a choice, up to its end. -/
def choiceWith (inner : Inner) : Nat → Reader Command
  | 0 => Reader.refuse "end of file unexpected (expecting \"fi\")"
  | fuel + 1 => do
    let condition ← required inner
    expectKeyword inner "then"
    let yes ← required inner
    let t ← token inner
    match keyword? t with
    | some "elif" => return .choice condition yes (some (← choiceWith inner fuel))
    | some "else" =>
      let no ← required inner
      expectKeyword inner "fi"
      return .choice condition yes (some no)
    | some "fi" => return .choice condition yes none
    | _ => unexpected t (some "fi")

/-- Reads words up to the end of a line or a semicolon. -/
def wordsToEnd (inner : Inner) : Nat → Reader (List Word)
  | 0 => return []
  | fuel + 1 => do
    match ← token inner with
    | .word w => return w :: (← wordsToEnd inner fuel)
    | .newline | .semicolon => return []
    | t => unexpected t none

/-- Reads a loop over words, behind its keyword. -/
def eachWith (inner : Inner) (line : Nat) : Reader Command := do
  match ← token inner with
  | .word w =>
    match (Word.literal? w).filter Ascii.isName with
    | none => Reader.refuse "Bad for loop variable"
    | some name =>
      let t ← tokenPastLines inner (← Reader.fuel)
      let words ←
        if keyword? t = some "in" then some <$> wordsToEnd inner (← Reader.fuel)
        else do
          match t with
          | .semicolon => pure none
          | t =>
            putBack t
            pure none
      skipLines inner
      expectKeyword inner "do"
      let body ← required inner
      expectKeyword inner "done"
      return .each line name words body
  | _ => Reader.refuse "Bad for loop variable"

/-- Reads the patterns of an arm, up to the parenthesis behind them. -/
def patternsWith (inner : Inner) : Nat → Token → Reader (List Word)
  | 0, t => unexpected t none
  | fuel + 1, t => do
    match t with
    | .word w =>
      match ← token inner with
      | .bar => return w :: (← patternsWith inner fuel (← token inner))
      | .rightParen => return [w]
      | t => unexpected t (some ")")
    | t => unexpected t (some ")")

/-- Reads the arms of a case, up to its end. -/
def armsWith (inner : Inner) : Nat → Reader (List Arm)
  | 0 => Reader.refuse "end of file unexpected (expecting \";;\")"
  | fuel + 1 => do
    let t ← tokenPastLines inner (← Reader.fuel)
    if keyword? t = some "esac" then return []
    else
      let first ←
        match t with
        | .leftParen => token inner
        | t => pure t
      let patterns ← patternsWith inner (← Reader.fuel) first
      let body ← inner.block true
      let t ← tokenPastLines inner (← Reader.fuel)
      match t with
      | .doubleSemicolon => return (patterns, body) :: (← armsWith inner fuel)
      | t =>
        if keyword? t = some "esac" then return [(patterns, body)] else unexpected t (some ";;")

/-- Reads a case, behind its keyword. -/
def casesWith (inner : Inner) (line : Nat) : Reader Command := do
  match ← token inner with
  | .word w =>
    let t ← tokenPastLines inner (← Reader.fuel)
    if keyword? t = some "in" then return .cases line w (← armsWith inner (← Reader.fuel))
    else unexpected t (some "in")
  | t => Reader.refuse (titleOf t ++ " unexpected (expecting word)")

/-- Puts the redirections behind a compound command to it. -/
def withRedirections (inner : Inner) (line : Nat) (c : Command) : Reader Command := do
  match c, ← redirections inner (← Reader.fuel) with
  | c, [] => return c
  | .subshell line c _, rs => return .subshell line c rs
  | c, rs => return .redirected line c rs

/-- The next token, if an alias stands there what it stands for. None stands for itself again. -/
def tokenFor (inner : Inner) : Nat → Reader Token
  | 0 => token inner
  | fuel + 1 => do
    let t ← token inner
    match t with
    | .word w =>
      let i ← get
      match (i.aliases.filter fun a => some a.1 = Word.literal? w && (keyword? t).isNone).head? with
      | some (name, text) =>
        set { i with rest := text ++ i.rest, aliases := i.aliases.filter fun a => a.1 ≠ name }
        tokenFor inner fuel
      | none => return t
    | t => return t

/-- Reads a command. -/
def commandWith (inner : Inner) : Reader Command := do
  let line := (← get).line
  let aliases := (← get).aliases
  let t ← tokenFor inner aliases.length
  modify fun i => { i with aliases }
  match keyword? t, t with
  | some "if", _ => withRedirections inner line (← choiceWith inner (← Reader.fuel))
  | some "while", _ => do
    let condition ← required inner
    expectKeyword inner "do"
    let body ← required inner
    expectKeyword inner "done"
    withRedirections inner line (.loop false condition body)
  | some "until", _ => do
    let condition ← required inner
    expectKeyword inner "do"
    let body ← required inner
    expectKeyword inner "done"
    withRedirections inner line (.loop true condition body)
  | some "for", _ => withRedirections inner line (← eachWith inner line)
  | some "case", _ => withRedirections inner line (← casesWith inner line)
  | some "\x7b", _ => do
    let c ← required inner
    expectKeyword inner "\x7d"
    withRedirections inner line c
  | some _, t => unexpected t none
  | none, .leftParen => do
    let c ← required inner
    match ← token inner with
    | .rightParen => withRedirections inner line (.subshell line c [])
    | t => unexpected t (some ")")
  | none, t =>
    match t with
    | .word _ | .redirect _ _ => do
      putBack t
      simpleWith inner line (← Reader.fuel) {}
    | t => unexpected t none

/-! ## Lists of commands -/

/-- Reads the commands of a pipeline behind the first one. -/
def pipedWith (inner : Inner) : Nat → Reader (List Command)
  | 0 => return []
  | fuel + 1 => do
    match ← token inner with
    | .bar =>
      skipLines inner
      let c ← commandWith inner
      return c :: (← pipedWith inner fuel)
    | t =>
      putBack t
      return []

/-- Reads a pipeline. -/
def pipelineWith (inner : Inner) : Reader Command := do
  let aliases := (← get).aliases
  let t ← tokenFor inner aliases.length
  modify fun i => { i with aliases }
  let negated := keyword? t = some "!"
  if negated then pure () else putBack t
  let first ← commandWith inner
  let c ←
    match ← pipedWith inner (← Reader.fuel) with
    | [] => pure first
    | others => pure (.pipeline (first :: others))
  return if negated then .negation c else c

/-- Reads what follows a pipeline on conditions. -/
def conditionalWith (inner : Inner) : Nat → Command → Reader Command
  | 0, c => return c
  | fuel + 1, c => do
    match ← token inner with
    | .andIf =>
      skipLines inner
      conditionalWith inner fuel (.both c (← pipelineWith inner))
    | .orIf =>
      skipLines inner
      conditionalWith inner fuel (.either c (← pipelineWith inner))
    | t =>
      putBack t
      return c

/-- Whether a token ends a list of commands inside a construct. -/
def closes (t : Token) : Bool :=
  match t with
  | .finish | .rightParen | .doubleSemicolon => true
  | t =>
    match keyword? t with
    | some k => closers.contains k
    | none => false

/-- Puts a command behind others. -/
def follow (done : Option Command) (c : Command) : Command :=
  match done with
  | some d => .sequence d c
  | none => c

/-- Reads commands in a row, on one line or on any number of them. -/
def listWith (inner : Inner) (manyLines mayStop : Bool) :
    Nat → Option Command → Reader (Option Command)
  | 0, done => return done
  | fuel + 1, done => do
    if manyLines then skipLines inner
    let t ← token inner
    let isEnd :=
      match t with
      | .finish => true
      | .newline => !manyLines
      | _ => manyLines && mayStop && closes t
    if isEnd then
      match t with
      | .newline => return done
      | t =>
        putBack t
        return done
    else
      putBack t
      let c ← conditionalWith inner (← Reader.fuel) (← pipelineWith inner)
      let t ← token inner
      match t with
      | .ampersand => listWith inner manyLines true fuel (some (follow done (.background c)))
      | .semicolon => listWith inner manyLines true fuel (some (follow done c))
      | .newline | .finish =>
        putBack t
        listWith inner manyLines true fuel (some (follow done c))
      | t =>
        if manyLines then
          putBack t
          return some (follow done c)
        else unexpected t none

/-! ## Scripts -/

/-- What is read inside a construct. -/
inductive Goal
  | block (mayBeEmpty : Bool)
  | command

/-- Reads what is inside a construct, to a depth. -/
def insideTo : Nat → Goal → Reader (Option Command)
  | 0, _ => Reader.refuse "nesting too deep"
  | depth + 1, goal =>
    let inner : Inner :=
      { block := fun mayBeEmpty => insideTo depth (.block mayBeEmpty)
        command := do
          match ← insideTo depth .command with
          | some c => return c
          | none => Reader.refuse "word unexpected" }
    match goal with
    | .block mayBeEmpty => do listWith inner true mayBeEmpty (← Reader.fuel) none
    | .command => some <$> commandWith inner

/-- The readers for what is inside a construct of a script. -/
def inside (depth : Nat) : Inner :=
  { block := fun mayBeEmpty => insideTo depth (.block mayBeEmpty)
    command := do
      match ← insideTo depth .command with
      | some c => return c
      | none => Reader.refuse "word unexpected" }

/-- A complete command with the rest of the script. -/
structure Complete where
  /-- Nothing if the line is empty. -/
  command : Option Command
  rest : Input
  /-- Whether the script ends here. -/
  isLast : Bool

/-- Reads the next complete command of a script; nothing at its end. -/
def next (i : Input) : Except Complaint (Option Complete) := do
  let fuel := i.rest.length + 1
  let (command, rest) ← (listWith (inside fuel) false false fuel none).run i
  match rest.waiting, command with
  | some .finish, none => return none
  | some .finish, some c => return some ⟨c, { rest with waiting := none, rest := [] }, true⟩
  | _, c => return some ⟨c, rest, false⟩

end Grammar
end SessionControl.Shell
