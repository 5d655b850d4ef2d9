import SessionControl.Shell.Script
import SessionControl.Text.Ascii

set_option autoImplicit false

/-! # Reading words

The reader of a script goes over its bytes and keeps the number of the line. A word ends at a blank
or at a character that is a command separator or redirects; quotes, backslashes and what begins with
a dollar sign make up its parts. The reader of a whole command is a parameter here, since a word can
hold one. -/

namespace SessionControl.Shell

/-! ## The reader -/

/-- A token of a script. -/
inductive Token where
  | finish | newline | semicolon | doubleSemicolon
  | ampersand | andIf | bar | orIf
  | leftParen | rightParen
  /-- A redirection; the descriptor is told by the sign if it is not given. -/
  | redirect (descriptor : Option Nat) (sign : String)
  | word (parts : Word)

/-- What is still to be read. -/
structure Input where
  rest : Bytes
  line : Nat := 1
  /-- A token that was read and put back. -/
  waiting : Option Token := none
  /-- Lines that were read ahead of the end of the current one. -/
  linesAhead : Nat := 0
  /-- Words that stand for text at the beginning of a command. -/
  aliases : List (Bytes × Bytes) := []

/-- What is wrong with a script, and on which line. -/
structure Complaint where
  line : Nat
  text : String

/-- A reader of a part of a script. -/
abbrev Reader := StateT Input (Except Complaint)

namespace Reader

/-- Refuses the script. -/
def refuse {α : Type} (text : String) : Reader α := do
  throw ⟨(← get).line, "Syntax error: " ++ text⟩

/-- Takes a character away, and counts the line that it ends. -/
def skip : Reader Unit := modify fun i =>
  match i.rest with
  | [] => i
  | '\n' :: cs => { i with rest := cs, line := i.line + 1 + i.linesAhead, linesAhead := 0 }
  | _ :: cs => { i with rest := cs }

/-- Takes line ends away that a backslash hides. -/
def joinLines : Nat → Bytes → Nat → Bytes × Nat
  | fuel + 1, '\\' :: '\n' :: cs, n => joinLines fuel cs (n + 1)
  | _, cs, n => (cs, n)

/-- The next character, without line ends that a backslash hides. -/
def peek : Reader (Option Char) := modifyGet fun i =>
  let (rest, n) := joinLines i.rest.length i.rest 0
  (rest.head?, { i with rest, line := i.line + n })

/-- The next character as it stands. -/
def peekRaw : Reader (Option Char) := return (← get).rest.head?

/-- Takes the next character away if it is this one. -/
def take? (c : Char) : Reader Bool := do
  if (← peek) = some c then
    skip
    return true
  else return false

/-- Takes characters away as long as they are such. -/
def takeWhile (p : Char → Bool) : Nat → Reader Bytes
  | 0 => return []
  | fuel + 1 => do
    match ← peek with
    | some c =>
      if p c then
        skip
        return c :: (← takeWhile p fuel)
      else return []
    | none => return []

/-- More steps than there are characters. -/
def fuel : Reader Nat := return (← get).rest.length + 1

/-- Reads with another input, and goes on with one's own. -/
def onInput {α : Type} (line : Nat) (text : Bytes) (r : Reader α) : Reader α := do
  let own ← get
  set ({ rest := text, line, aliases := own.aliases } : Input)
  let a ← r
  set own
  return a

end Reader

/-! ## Characters -/

namespace Word

/-- A character that ends a word. -/
def endsWord (c : Char) : Bool :=
  Ascii.isBlank c || c = '\n' || c = ';' || c = '&' || c = '|' || c = '(' || c = ')' || c = '<' || c = '>'

/-- A parameter that is told by a sign. -/
def isSign (c : Char) : Bool :=
  c = '@' || c = '*' || c = '#' || c = '?' || c = '-' || c = '$' || c = '!' || Ascii.isDigit c

/-- What a backslash in double quotes can take the meaning of. -/
def isSpecialInQuotes (c : Char) : Bool :=
  c = '$' || c = '\x60' || c = '\\' || c = '"'

/-! ## Parts -/

/-- Puts a part behind others; text joins text. -/
def join (parts : Word) (p : Part) : Word :=
  match parts.getLast?, p with
  | some (.text q a), .text r b =>
    if q = r then parts.dropLast ++ [.text q (a ++ b)] else parts ++ [p]
  | _, _ => parts ++ [p]

/-- Where the reading of parts stops. -/
inductive Stop
  /-- Where a word ends. -/
  | word
  | quote
  | brace
  /-- At the parentheses that end an expression. -/
  | parentheses
  | finish
  deriving DecidableEq, Repr

/-- Reads what is between backquotes, whose inner backslashes are taken away. -/
def backquoted (quoted : Bool) : Nat → Reader Bytes
  | 0 => Reader.refuse "EOF in backquote substitution"
  | fuel + 1 => do
    match ← Reader.peekRaw with
    | none => Reader.refuse "EOF in backquote substitution"
    | some '\x60' =>
      Reader.skip
      return []
    | some '\\' =>
      Reader.skip
      match ← Reader.peekRaw with
      | some '\n' =>
        Reader.skip
        backquoted quoted fuel
      | some c =>
        Reader.skip
        let kept := c = '\\' || c = '\x60' || c = '$' || (quoted && c = '"')
        let more ← backquoted quoted fuel
        return if kept then c :: more else '\\' :: c :: more
      | none => Reader.refuse "EOF in backquote substitution"
    | some c =>
      Reader.skip
      return c :: (← backquoted quoted fuel)

/-- Reads text between single quotes. -/
def singleQuoted : Nat → Reader Bytes
  | 0 => Reader.refuse "Unterminated quoted string"
  | fuel + 1 => do
    match ← Reader.peekRaw with
    | none => Reader.refuse "Unterminated quoted string"
    | some '\'' =>
      Reader.skip
      return []
    | some c =>
      Reader.skip
      return c :: (← singleQuoted fuel)

/-- Reads how the value of a parameter is treated, behind its name in braces. -/
def treatment : Reader Treatment := do
  let emptyToo ← Reader.take? ':'
  match ← Reader.peek with
  | some '-' =>
    Reader.skip
    return .orElse emptyToo
  | some '=' =>
    Reader.skip
    return .orAssign emptyToo
  | some '?' =>
    Reader.skip
    return .orFail emptyToo
  | some '+' =>
    Reader.skip
    return .ifSet emptyToo
  | some '%' =>
    if emptyToo then return .unknown
    else
      Reader.skip
      return .trim .back (← Reader.take? '%')
  | some '#' =>
    if emptyToo then return .unknown
    else
      Reader.skip
      return .trim .front (← Reader.take? '#')
  | some '\x7d' =>
    if emptyToo then Reader.skip
    return .plain
  | _ => return .unknown

/-- Reads the name of a parameter in braces; nothing if there is none. -/
def bracedName : Reader Name := do
  match ← Reader.peek with
  | some c =>
    if Ascii.isNameStart c then Reader.takeWhile Ascii.isNameChar (← Reader.fuel)
    else if Ascii.isDigit c then Reader.takeWhile Ascii.isDigit (← Reader.fuel)
    else if isSign c then
      Reader.skip
      return [c]
    else return []
  | none => return []

/-- What begins with a sharp in braces: the length of a parameter, or the parameter that is told by
    it. -/
def sharp : Reader (Name × Treatment) := do
  let before ← get
  Reader.skip
  let name ← bracedName
  if name ≠ [] ∧ (← Reader.peek) = some '\x7d' then return (name, .length)
  else
    set before
    Reader.skip
    return (['#'], ← treatment)

/-- The readers of commands inside a word. -/
structure Nested where
  /-- Reads up to a closing parenthesis. -/
  command : Reader (Option Command)
  /-- Reads to the end. -/
  script : Reader (Option Command)

mutual

/-- Reads parts up to where they stop. -/
def parts (nested : Nested) (stop : Stop) (quoted : Bool) :
    Nat → Nat → Word → Reader Word
  | 0, _, _ => Reader.refuse "Unterminated quoted string"
  | fuel + 1, depth, done => do
    let go (p : Part) : Reader Word := parts nested stop quoted fuel depth (join done p)
    match ← Reader.peekRaw with
    | none =>
      match stop with
      | .word | .finish => return done
      | .quote => Reader.refuse "Unterminated quoted string"
      | .brace => Reader.refuse "Missing '\x7d'"
      | .parentheses => Reader.refuse "Missing '))'"
    | some c =>
      if c = '\\' then
        Reader.skip
        match ← Reader.peekRaw with
        | none => go (.text true ['\\'])
        | some '\n' =>
          Reader.skip
          parts nested stop quoted fuel depth done
        | some d =>
          Reader.skip
          let special := isSpecialInQuotes d && (stop ≠ .finish || d ≠ '"')
          if quoted && !special && !(stop = .brace && d = '\x7d') then go (.text true ['\\', d])
          else go (.text true [d])
      else if c = '$' then
        Reader.skip
        go (← dollar nested quoted fuel)
      else if c = '\x60' then
        Reader.skip
        let inner ← backquoted quoted (← Reader.fuel)
        go (.output quoted (← Reader.onInput 1 inner nested.script))
      else if stop = .brace ∧ c = '\x7d' then
        Reader.skip
        return done
      else if stop = .quote ∧ c = '"' then
        Reader.skip
        return done
      else if stop = .parentheses ∧ c = ')' ∧ depth = 0 then
        Reader.skip
        if ← Reader.take? ')' then return done else go (.text quoted [')'])
      else if stop = .parentheses ∧ (c = '(' ∨ c = ')') then
        Reader.skip
        parts nested stop quoted fuel (if c = '(' then depth + 1 else depth - 1)
          (join done (.text quoted [c]))
      else if c = '"' ∧ stop ≠ .finish ∧ stop ≠ .quote then
        Reader.skip
        if stop = .parentheses then parts nested stop quoted fuel depth done
        else
          let inner ← parts nested .quote true fuel 0 []
          let inner := if inner.isEmpty then [.text true []] else inner
          parts nested stop quoted fuel depth (inner.foldl join done)
      else if c = '\'' ∧ quoted = false then
        Reader.skip
        go (.text true (← singleQuoted (← Reader.fuel)))
      else if stop = .word ∧ endsWord c then return done
      else
        Reader.skip
        go (.text quoted [c])

/-- Reads what is behind a dollar sign. -/
def dollar (nested : Nested) (quoted : Bool) : Nat → Reader Part
  | 0 => Reader.refuse "Bad substitution"
  | fuel + 1 => do
    match ← Reader.peek with
    | some '(' =>
      Reader.skip
      if ← Reader.take? '(' then
        return .arithmetic quoted (← parts nested .parentheses true fuel 0 [])
      else return .output quoted (← nested.command)
    | some '\x7b' =>
      Reader.skip
      braced nested quoted fuel
    | some c =>
      if Ascii.isNameStart c then
        return .parameter quoted (← Reader.takeWhile Ascii.isNameChar (← Reader.fuel)) .plain []
      else if isSign c then
        Reader.skip
        return .parameter quoted [c] .plain []
      else return .text quoted ['$']
    | none => return .text quoted ['$']

/-- Reads a parameter in braces. -/
def braced (nested : Nested) (quoted : Bool) : Nat → Reader Part
  | 0 => Reader.refuse "Bad substitution"
  | fuel + 1 => do
    let (name, t) ←
      match ← Reader.peek with
      | some '#' => sharp
      | _ => do
        let name ← bracedName
        let t ← if name = [] then pure .unknown else treatment
        pure (name, t)
    let inner : Bool :=
      match t with
      | .trim _ _ => false
      | _ => quoted
    return .parameter quoted name t (← parts nested .brace inner fuel 0 [])

end

/-- The text of a word in which nothing is quoted and nothing is replaced. -/
def literal? : Word → Option Bytes
  | [.text false bytes] => some bytes
  | _ => none

/-- Splits a name and an equals sign off a word. -/
def assignment? : Word → Option (Name × Word)
  | .text false bytes :: rest =>
    let name := bytes.takeWhile Ascii.isNameChar
    match bytes.drop name.length with
    | '=' :: value =>
      if Ascii.isName name then
        some (name, if value = [] then rest else .text false value :: rest)
      else none
    | _ => none
  | _ => none

/-- The text of a word with its quotes taken away and nothing replaced. -/
def unquoted (w : Word) : Bytes :=
  w.flatMap fun p =>
    match p with
    | .text _ bytes => bytes
    | .parameter _ name _ _ => '$' :: name
    | _ => []

/-- Whether a part of a word is quoted. -/
def isQuoted (w : Word) : Bool :=
  w.any fun p =>
    match p with
    | .text quoted _ => quoted
    | _ => false

end Word
end SessionControl.Shell
