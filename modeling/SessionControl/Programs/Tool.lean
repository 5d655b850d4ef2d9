import SessionControl.Machine.Process

set_option autoImplicit false

/-! # Tools

What programs that work on texts and files have in common: options, the files that they read, and how
they complain. -/

namespace SessionControl.Programs

open Machine (Process Work Fate)

/-- A program. -/
abbrev Tool := Process → Work Fate

namespace Tool

/-! ## Answers -/

def say (p : Process) (bytes : Bytes) : Work Unit := do
  let _ ← p.write 1 bytes

/-- Writes what is wrong. -/
def complain (p : Process) (text : Bytes) : Work Unit := do
  let _ ← p.write 2 (p.name ++ ": ".toList ++ text ++ ['\n'])

def exit (code : Nat) : Work Fate := return .exited code

/-- Prints a result and succeeds. -/
def answer (p : Process) (bytes : Bytes) : Work Fate := do
  say p bytes
  exit 0

/-- Complains and fails. -/
def refuse (p : Process) (code : Nat) (text : Bytes) : Work Fate := do
  complain p text
  exit code

/-- Complains about how the program is used, and fails. -/
def misused (p : Process) (code : Nat) (text : Bytes) : Work Fate := do
  complain p text
  let _ ← p.write 2 ("Try '".toList ++ p.name ++ " --help' for more information.\n".toList)
  exit code

/-- A text between quotes. -/
def quoted (bytes : Bytes) : Bytes := '\'' :: bytes ++ ['\'']

/-- What is said of a file. -/
def faultText (path : Bytes) (f : SystemFault) : Bytes := path ++ ": ".toList ++ f.title.toList

/-! ## Options -/

/-- What options a program knows. -/
structure Options where
  /-- The letters of those that stand alone. -/
  plain : String := ""
  /-- The letters of those with a value. -/
  valued : String := ""
  /-- Long names of letters. -/
  long : List (String × Char) := []
  /-- Whether options can stand behind other words. -/
  anywhere : Bool := true

/-- An option that was given. -/
structure Given where
  letter : Char
  value : Bytes := []

/-- The options that were given, and the other words. -/
structure Arguments where
  options : List Given := []
  words : List Bytes := []

namespace Arguments

/-- Whether an option was given. -/
def has (a : Arguments) (letter : Char) : Bool := a.options.any fun o => o.letter = letter

/-- The value that was given last for an option. -/
def value? (a : Arguments) (letter : Char) : Option Bytes :=
  (a.options.reverse.find? fun o => o.letter = letter).map (·.value)

/-- The letter that was given last of some. -/
def lastOf? (a : Arguments) (letters : String) : Option Char :=
  (a.options.reverse.find? fun o => letters.toList.contains o.letter).map (·.letter)

end Arguments

namespace Options

/-- Reads letters in one word. The flag says that the next word is the value of the last one. -/
def cluster (o : Options) : Bytes → Except Bytes (List Given × Bool)
  | [] => .ok ([], false)
  | c :: cs =>
    if o.plain.toList.contains c then do
      let (more, wants) ← cluster o cs
      .ok ({ letter := c } :: more, wants)
    else if o.valued.toList.contains c then
      if cs = [] then .ok ([{ letter := c }], true) else .ok ([{ letter := c, value := cs }], false)
    else .error ("invalid option -- '".toList ++ [c] ++ ['\''])

/-- Reads a long name, with its value behind an equals sign. -/
def named (o : Options) (name : Bytes) : Except Bytes (Given × Bool) :=
  let key := name.takeWhile (· ≠ '=')
  let value := (name.drop key.length).drop 1
  let fits (e : String × Char) : Bool := key.isPrefixOf e.1.toList
  match (o.long.find? fun e => e.1.toList = key) <|> o.long.find? fits with
  | some (_, letter) =>
    if o.valued.toList.contains letter then .ok (⟨letter, value⟩, !name.contains '=')
    else .ok (⟨letter, []⟩, false)
  | none => .error ("unrecognized option '--".toList ++ name ++ ['\''])

/-- Reads options and words. -/
def readFrom (o : Options) : Nat → Arguments → List Bytes → Except Bytes Arguments
  | 0, a, _ => .ok a
  | _ + 1, a, [] => .ok a
  | fuel + 1, a, w :: ws =>
    let take (given : List Given) (wants : Bool) : Except Bytes Arguments :=
      if wants then
        match given.getLast?, ws with
        | some g, value :: rest =>
          readFrom o fuel { a with options := a.options ++ given.dropLast ++ [⟨g.letter, value⟩] }
            rest
        | some g, [] =>
          .error ("option requires an argument -- '".toList ++ [g.letter] ++ ['\''])
        | none, _ => .ok a
      else readFrom o fuel { a with options := a.options ++ given } ws
    match w with
    | ['-', '-'] => .ok { a with words := a.words ++ ws }
    | '-' :: '-' :: name => do
      let (given, wants) ← o.named name
      take [given] wants
    | '-' :: c :: cs => do
      let (given, wants) ← o.cluster (c :: cs)
      take given wants
    | _ =>
      if o.anywhere then readFrom o fuel { a with words := a.words ++ [w] } ws
      else .ok { a with words := a.words ++ w :: ws }

/-- Reads the words of a program. -/
def read (o : Options) (words : List Bytes) : Except Bytes Arguments :=
  o.readFrom (words.length + 1) {} words

end Options

/-- Runs a program with its options, or complains about them. -/
def withOptions (o : Options) (code : Nat) (body : Process → Arguments → Work Fate) : Tool :=
  fun p =>
    match o.read p.arguments with
    | .ok a => body p a
    | .error text => misused p code text

/-! ## Files -/

/-- Reads a file, or standard input for a dash. -/
def readInput (p : Process) (path : Bytes) : Work (Except SystemFault Bytes) :=
  if path = ['-'] then p.readAll 0 else p.readPath path

/-- Reads files one after the other, and standard input if there are none. Those that cannot be read
    are complained about. -/
def readInputs (p : Process) (paths : List Bytes) : Work (List (Bytes × Bytes) × Bool) := do
  let paths := if paths.isEmpty then [['-']] else paths
  let read ← paths.mapM fun path => do
    match ← readInput p path with
    | .ok bytes => return some (path, bytes)
    | .error f =>
      complain p (faultText path f)
      return none
  return (read.filterMap id, read.all Option.isSome)

/-- Reads files one after the other and prints after each what the files so far are made into: the
    part of it that has not been printed. -/
def printEach (p : Process) (body : List Bytes → Bytes) :
    List Bytes → Nat → Bool → List Bytes → Work Bool
  | _, _, complete, [] => return complete
  | before, printed, complete, path :: rest => do
    match ← readInput p path with
    | .ok bytes =>
      let inputs := before ++ [bytes]
      let text := body inputs
      say p (text.drop printed)
      printEach p body inputs text.length complete rest
    | .error f =>
      complain p (faultText path f)
      printEach p body before printed false rest

/-- A program that makes one text out of the files that it reads. What it makes of some files begins
    with what it makes of the first of them. -/
def filter (o : Options) (body : Arguments → List Bytes → Bytes) : Tool :=
  withOptions o 1 fun p a => do
    let paths := if a.words.isEmpty then [['-']] else a.words
    exit (if ← printEach p (body a) [] 0 true paths then 0 else 1)

/-- Reads a natural number that a program is given, which may be large. -/
def count? (word : Bytes) : Option Nat :=
  let ds := word.takeWhile Ascii.isDigit
  if ds = [] then none
  else
    let n := Decimal.ofDigits ds
    match word.drop ds.length with
    | [] => some n
    | ['b'] => some (512 * n)
    | ['K'] | ['k'] => some (1024 * n)
    | ['k', 'B'] | ['K', 'B'] => some (1000 * n)
    | ['M'] => some (1048576 * n)
    | _ => none

end Tool
end SessionControl.Programs
