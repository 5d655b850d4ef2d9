import SessionControl.Shell.Arithmetic
import SessionControl.Shell.Pattern
import SessionControl.Shell.State

set_option autoImplicit false

/-! # Expansion

What the words of a command become when it is run. The parts are replaced by their values first; then
the values that were not quoted are split at separators, and words that are patterns become the names
of the files that they stand for. The runner of commands is a parameter here, since a word can hold
one. -/

namespace SessionControl.Shell

open Machine (Place)

/-! ## Replaced parts -/

/-- Where a character of a word comes from. -/
inductive Origin
  | quoted
  /-- It stood in the script as it is. -/
  | plain
  /-- It is part of a value, and can separate words. -/
  | value
  deriving DecidableEq, Repr

/-- An element of a word whose parts have been replaced. -/
inductive Piece
  | char (c : Char) (origin : Origin)
  /-- The end of one word and the beginning of another. -/
  | gap
  /-- Quotes, even if nothing is between them. -/
  | quotes
  deriving DecidableEq, Repr

namespace Expansion

/-- Runs a command in a shell of its own and returns what it prints. -/
abbrev Capture := Option Command → Run Bytes

def pieces (origin : Origin) (bytes : Bytes) : List Piece := bytes.map fun c => .char c origin

/-- The characters of a word. -/
def characters (ps : List Piece) : Bytes :=
  ps.filterMap fun p =>
    match p with
    | .char c _ => some c
    | .gap => some ' '
    | .quotes => none

/-- The characters of a pattern, with marks on those that mean but themselves. -/
def marks (ps : List Piece) : List Mark :=
  ps.filterMap fun p =>
    match p with
    | .char c origin => some ⟨c, origin = .quoted⟩
    | .gap => some ⟨' ', false⟩
    | .quotes => none

/-! ## Parameters -/

/-- The characters that separate words: spaces, tabs and line ends unless a variable says
    otherwise. -/
def separators : Run Bytes := return (← Run.value? "IFS".toList).getD [' ', '\t', '\n']

/-- The letters of the options that are on, in their order. -/
def optionLetters (options : Bytes) : Bytes :=
  "efIimnsxvVECabu".toList.filter options.contains

/-- The value of a parameter that is told by a sign or a number. -/
def special? (name : Name) : Run (Option Bytes) := do
  let s ← Run.shell
  match name with
  | ['#'] => return some (Decimal.digits s.parameters.length)
  | ['?'] => return some (Decimal.digits s.status)
  | ['-'] => return some (optionLetters s.options)
  | ['$'] => return some (Decimal.digits s.mainNumber)
  | ['!'] => return s.newestJob.map Decimal.digits
  | ['@'] | ['*'] => return some (List.intercalate [' '] s.parameters)
  | ['0'] => return some s.title
  | _ =>
    match Decimal.natural? name with
    | some n => return if n = 0 then some s.title else s.parameters[n - 1]?
    | none => return none

/-- The value of a parameter. -/
def value? (name : Name) : Run (Option Bytes) :=
  if Ascii.isName name then Run.value? name else special? name

/-- All parameters in a row: words of their own, or joined if they are quoted and told by a star. -/
def allParameters (quoted : Bool) (star : Bool) : Run (List Piece) := do
  let ps := (← Run.shell).parameters
  if quoted ∧ star then
    let between := (← separators).take 1
    return .quotes :: pieces .quoted (List.intercalate between ps)
  else if quoted then
    return List.intercalate [.gap] (ps.map fun p => .quotes :: pieces .quoted p)
  else return List.intercalate [.gap] (ps.map (pieces .value))

/-- Refuses a parameter that has no value, if an option says so. -/
def requireSet (name : Name) (value : Option Bytes) : Run Unit := do
  if value = none ∧ (← Run.hasOption 'u') then Run.fail (name ++ ": parameter not set".toList)
  else return ()

/-! ## Arithmetic -/

/-- What is said of a faulty expression. -/
def faultText (expression : Bytes) : Arithmetic.Fault → Bytes
  | .expectsPrimary => about "expecting primary"
  | .expectsEnd => about "expecting EOF"
  | .expectsColon => about "expecting ':'"
  | .expectsParenthesis => about "expecting ')'"
  | .divisionByZero => about "division by zero"
  | .illegalNumber text => "Illegal number: ".toList ++ text
  | .unsetVariable name => name ++ ": parameter not set".toList
  | .readOnly name => name ++ ": is read only".toList
where
  about (text : String) : Bytes :=
    "arithmetic expression: ".toList ++ text.toList ++ ": \"".toList ++ expression ++ ['"']

/-- How expressions get at the variables of the shell. -/
def access (expression : Bytes) : Arithmetic.Access Run where
  value name := do
    let value ← Run.value? name
    match Arithmetic.valueOf? (value.getD []) with
    | some n => return n
    | none => Run.fail (faultText expression (.illegalNumber (value.getD [])))
  store name n := Run.assign name (Arithmetic.text n)
  fail f := Run.fail (faultText expression f)

/-- The text of the value of an expression. -/
def calculate (expression : Bytes) : Run Bytes := do
  match Arithmetic.read expression with
  | .error f => Run.fail (faultText expression f)
  | .ok e => return Arithmetic.text (← Arithmetic.evaluate (access expression) e)

/-! ## Words -/

/-- The home directory that a tilde at the beginning stands for, up to the first slash or, in a value,
    colon. -/
def home? (text : Bytes) (inValue : Bool) : Run (Option (Bytes × Bytes)) := do
  match text with
  | '~' :: rest =>
    let user := rest.takeWhile fun c => c ≠ '/' && !(inValue && c = ':')
    let behind := rest.drop user.length
    if user = [] then return (← Run.value? "HOME".toList).map fun h => (h, behind)
    else if user = "root".toList then return some ("/root".toList, behind)
    else return none
  | _ => return none

/-- Replaces a tilde at the beginning of a word. -/
def tilde (inValue : Bool) (w : Word) : Run (List Piece × Word) := do
  match w with
  | .text false text :: rest =>
    match ← home? text inValue with
    | some (h, behind) =>
      -- A name has to end within the text that is not quoted.
      if behind = [] ∧ rest ≠ [] then return ([], w)
      else return (pieces .quoted h, .text false behind :: rest)
    | none => return ([], w)
  | _ => return ([], w)

/-- Replaces tildes behind colons in a value. -/
def tildesInside : Nat → Bytes → Run (List Piece)
  | 0, text => return pieces .plain text
  | fuel + 1, text => do
    let before := text.takeWhile (· ≠ ':')
    match text.drop before.length with
    | [] => return pieces .plain text
    | colon :: rest =>
      let head := pieces .plain (before ++ [colon])
      match ← home? rest true with
      | some (h, behind) => return head ++ pieces .quoted h ++ (← tildesInside fuel behind)
      | none => return head ++ (← tildesInside fuel rest)

/-- How words are expanded: whether plain text belongs to a value that is split, and whether tildes
    behind colons are replaced. -/
structure Manner where
  plain : Origin := .plain
  inValue : Bool := false

/-- The pieces of a word. The fuel is more than the depth to which words stand in words. -/
def expandTo (capture : Capture) : Nat → Manner → Word → Run (List Piece)
  | 0, _, _ => return []
  | fuel + 1, manner, w => do
    let (first, w) ← tilde manner.inValue w
    let rest ← w.mapM fun p => do
      match p with
      | .text true bytes => return .quotes :: pieces .quoted bytes
      | .text false bytes =>
        if manner.inValue then tildesInside bytes.length bytes
        else return pieces manner.plain bytes
      | .output quoted c =>
        let text ← capture c
        let kept := (text.reverse.dropWhile (· = '\n')).reverse
        return if quoted then .quotes :: pieces .quoted kept else pieces .value kept
      | .arithmetic quoted e =>
        let expression := characters (← expandTo capture fuel {} e)
        let text ← calculate expression
        return if quoted then .quotes :: pieces .quoted text else pieces .value text
      | .parameter quoted name t inner =>
        let shown (value : Bytes) : List Piece :=
          if quoted then .quotes :: pieces .quoted value else pieces .value value
        let nested : Run (List Piece) := do
          let ps ← expandTo capture fuel { plain := if quoted then .quoted else .value } inner
          return if quoted then .quotes :: ps else ps
        let value ← value? name
        let lacks (emptyToo : Bool) : Bool := value = none || (emptyToo && value = some [])
        let own : Run (List Piece) := do
          if name = ['@'] ∨ name = ['*'] then allParameters quoted (name = ['*'])
          else
            requireSet name value
            return shown (value.getD [])
        match t with
        | .unknown => Run.fail "Bad substitution".toList
        | .plain => own
        | .orElse emptyToo => if lacks emptyToo then nested else own
        | .ifSet emptyToo =>
          if lacks emptyToo then return if quoted then [.quotes] else [] else nested
        | .orAssign emptyToo =>
          if lacks emptyToo then
            if Ascii.isName name then
              let value := characters (← nested)
              Run.assign name value
              return shown value
            else Run.fail (name ++ ": bad variable name".toList)
          else own
        | .orFail emptyToo =>
          if lacks emptyToo then
            let message := characters (← nested)
            Run.fail (name ++ ": ".toList ++
              if message ≠ [] ∨ inner ≠ [] then message
              else if emptyToo then "parameter not set or null".toList
              else "parameter not set".toList)
          else own
        | .length =>
          requireSet name value
          return shown (Decimal.digits (value.getD []).length)
        | .trim side longest =>
          requireSet name value
          let p := Pattern.ofMarks (marks (← expandTo capture fuel {} inner))
          match side with
          | .front => return shown (p.trimFront longest (value.getD []))
          | .back => return shown (p.trimBack longest (value.getD []))
    return first ++ rest.flatten

/-- More than the depth to which words stand in words. -/
def depth : Nat := 1000

/-- The pieces of a word of a command. -/
def expand (capture : Capture) (w : Word) : Run (List Piece) := expandTo capture depth {} w

/-- A word that is neither split nor taken for a pattern. -/
def expandWhole (capture : Capture) (w : Word) : Run Bytes :=
  return characters (← expand capture w)

/-- The value of an assignment. -/
def expandValue (capture : Capture) (w : Word) : Run Bytes :=
  return characters (← expandTo capture depth { inValue := true } w)

/-- A word as a pattern. -/
def expandPattern (capture : Capture) (w : Word) : Run Pattern :=
  return Pattern.ofMarks (marks (← expand capture w))

/-! ## Splitting -/

/-- How far the splitting of a word is. -/
structure Splitting where
  /-- The words that are complete. -/
  done : List (List Mark) := []
  /-- The word that is being put together, if it has begun. -/
  current : Option (List Mark) := none
  /-- Whether separating white space has just been passed, behind a word that it ended. -/
  afterSpace : Bool := false

/-- Ends the current word, if there is one. -/
def Splitting.close (s : Splitting) : Splitting :=
  match s.current with
  | some ms => { s with done := s.done ++ [ms], current := none }
  | none => s

/-- Takes one more piece. White space separates words however much there is of it; every other
    separator ends a word, which may be empty. -/
def Splitting.step (separators : Bytes) (s : Splitting) : Piece → Splitting
  | .gap => { s.close with afterSpace := false }
  | .quotes => { s with current := some (s.current.getD []), afterSpace := false }
  | .char c origin =>
    if origin = .value ∧ separators.contains c then
      if c = ' ' ∨ c = '\t' ∨ c = '\n' then
        if s.current.isSome then { s.close with afterSpace := true } else s
      else if s.current = none ∧ s.afterSpace then { s with afterSpace := false }
      else { (({ s with current := some (s.current.getD []) } : Splitting).close) with
             afterSpace := false }
    else
      { s with
        current := some (s.current.getD [] ++ [⟨c, origin = .quoted⟩])
        afterSpace := false }

/-- The words that pieces make up. -/
def split (separators : Bytes) (ps : List Piece) : List (List Mark) :=
  (ps.foldl (Splitting.step separators) {}).close.done

/-! ## Names of files -/

/-- Cuts a pattern at its slashes. -/
def segments : List Mark → List (List Mark)
  | [] => [[]]
  | m :: ms =>
    match segments ms with
    | [] => [[m]]
    | s :: rest => if m.char = '/' then [] :: s :: rest else (m :: s) :: rest

/-- The names in a directory that a segment of a pattern stands for. A name that begins with a
    period has to be asked for. -/
def candidates (d : Machine.Disk) (place : Place) (segment : List Mark) : List Bytes :=
  let p := Pattern.ofMarks segment
  let names := d.namesIn place
  let hidden : List Bytes := [['.'], ['.', '.']]
  (names ++ hidden).filter fun n =>
    p.accepts n && (n.head? ≠ some '.' || p.head? = some (.exactly '.'))

/-- The text of a segment, in which quoting has no meaning any more. -/
def plainText (segment : List Mark) : Bytes := segment.map (·.char)

/-- The paths that the segments of a pattern stand for, behind a path that has been found. -/
def matching (d : Machine.Disk) (here : Place) : List (List Mark) → Bytes → List Bytes
  | [], found => [found]
  | segment :: rest, found =>
    let ending : Bytes := if rest = [] then [] else ['/']
    if (Pattern.ofMarks segment).isWild then
      let directory := if found = [] then ['.'] else found
      match d.resolve here directory with
      | .error _ => []
      | .ok place =>
        let names := (candidates d place segment).mergeSort fun a b => !Bytes.lt b a
        names.flatMap fun n =>
          let path := found ++ n ++ ending
          if rest = [] ∨ d.has here path then matching d here rest path else []
    else
      let path := found ++ plainText segment ++ ending
      if rest ≠ [] ∨ d.has here path then matching d here rest path else []

/-- The words that a word becomes: the names of the files that it stands for as a pattern, or it
    itself. -/
def generate (word : List Mark) : Run (List Bytes) := do
  let s ← Run.shell
  if (Pattern.ofMarks word).isWild ∧ !s.options.contains 'f' then
    let disk := (← get).machine.disk
    match matching disk s.process.here (segments word) [] with
    | [] => return [plainText word]
    | paths => return paths
  else return [plainText word]

/-- The words that a word of a command becomes. -/
def expandWord (capture : Capture) (w : Word) : Run (List Bytes) := do
  let ps ← expand capture w
  let words ← (split (← separators) ps).mapM generate
  return words.flatten

/-- The words that the words of a command become. -/
def expandWords (capture : Capture) (ws : List Word) : Run (List Bytes) := do
  let words ← ws.mapM (expandWord capture)
  return words.flatten

/-- The built-in commands whose words can be assignments. -/
def assigningNames : List String := ["alias", "export", "local", "readonly"]

/-- What is known of a command while its words are expanded: nothing, or whether its words can be
    assignments. -/
inductive Naming
  | open_ | assigning | settled
  deriving DecidableEq, Repr

/-- What is known once more words are there. -/
def Naming.after (n : Naming) (words : List Bytes) : Naming :=
  if n ≠ .open_ then n
  else
    match words.find? fun w => w ≠ "command".toList with
    | none => .open_
    | some name => if assigningNames.any fun a => a.toList = name then .assigning else .settled

/-- The words that the words of a command become. What is an assignment to the command is expanded as
    one. -/
def expandCommand (capture : Capture) : Naming → List Word → Run (List Bytes)
  | _, [] => return []
  | naming, w :: ws => do
    let words ←
      match if naming = .assigning then Word.assignment? w else none with
      | some (name, value) => pure [name ++ '=' :: (← expandValue capture value)]
      | none => expandWord capture w
    return words ++ (← expandCommand capture (naming.after words) ws)

end Expansion
end SessionControl.Shell
