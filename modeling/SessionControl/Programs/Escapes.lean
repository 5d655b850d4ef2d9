import SessionControl.Text.Ascii

set_option autoImplicit false

/-! # Escapes

Backslash sequences in what programs are told to print. Programs agree on the letters for common
control characters and on octal numbers, and differ in the rest. -/

namespace SessionControl.Programs

/-- What backslash sequences a program knows besides the common ones. -/
structure Escapes where
  /-- Letters with the characters they stand for. -/
  letters : List (Char × Char) := []
  /-- Whether an `x` goes before hexadecimal digits. -/
  hex : Bool := false
  /-- Whether a zero may go before three octal digits. -/
  zero : Bool := false
  /-- Whether other octal digits than zero are meant. -/
  octal : Bool := true
  /-- Whether a `c` ends all printing. -/
  stops : Bool := false
  /-- Whether a `u` goes before four hexadecimal digits of a character, and a `U` before eight. -/
  characters : Bool := false
  /-- Whether missing hexadecimal digits are a fault. -/
  demandsDigits : Bool := false

/-- What a backslash sequence comes to. -/
inductive Escaped
  /-- Bytes to print, and what is behind the sequence. -/
  | bytes (text rest : Bytes)
  | stop
  /-- An `x` without digits. -/
  | noDigits
  /-- A number that no character has, with its letter and digits. -/
  | noCharacter (spelling : Bytes)
  deriving DecidableEq, Repr

/-- How the replacing of backslash sequences ends. -/
inductive Ended
  | whole
  | stopped
  | faulty (text : Bytes)
  deriving DecidableEq, Repr

namespace Escapes

/-- The letters that all programs know. -/
def common : List (Char × Char) :=
  [('a', '\x07'), ('b', '\x08'), ('e', '\x1b'), ('f', '\x0c'), ('n', '\n'), ('r', '\r'),
   ('t', '\t'), ('v', '\x0b'), ('\\', '\\')]

/-- The byte of up to `count` digits at the front. -/
def number (base count : Nat) (cs : Bytes) : Escaped :=
  let ds := (cs.take count).takeWhile (Ascii.isDigitIn base)
  .bytes [Char.ofNat (Ascii.ofDigits base ds % 256)] (cs.drop ds.length)

/-- A number in hexadecimal digits, at least so many. -/
def hexText (width n : Nat) : Bytes := Bytes.padLeft '0' width (Nat.toDigits 16 n)

/-- The character of a number. Those that are not ASCII are written with their number again. -/
def character (letter : Char) (n : Nat) (rest : Bytes) : Escaped :=
  if n < 128 then .bytes [Char.ofNat n] rest
  else if 0xd800 ≤ n ∧ n ≤ 0xdfff then
    .noCharacter (letter :: hexText (if letter = 'u' then 4 else 8) n)
  else
    let large (width : Nat) : Bytes := (hexText width n).map Ascii.upper
    .bytes (if n < 0x10000 then "\\u".toList ++ large 4 else "\\U".toList ++ large 8) rest

/-- What the characters behind a backslash come to. -/
def read (e : Escapes) : Bytes → Escaped
  | [] => .bytes ['\\'] []
  | c :: cs =>
    match (common ++ e.letters).find? fun l => l.1 = c with
    | some (_, x) => .bytes [x] cs
    | none =>
      if c = 'c' ∧ e.stops then .stop
      else if c = 'x' ∧ e.hex then
        if Ascii.startsWithDigit 16 cs then number 16 2 cs
        else .noDigits
      else if (c = 'u' ∨ c = 'U') ∧ e.characters then
        let count := if c = 'u' then 4 else 8
        let ds := (cs.take count).takeWhile (Ascii.isDigitIn 16)
        if ds.length = count then character c (Ascii.ofDigits 16 ds) (cs.drop count)
        else .noDigits
      else if c = '0' ∧ e.zero then
        if Ascii.startsWithDigit 8 cs then number 8 3 cs else .bytes ['\x00'] cs
      else if Ascii.isDigitIn 8 c ∧ e.octal then number 8 3 (c :: cs)
      else .bytes ['\\', c] cs

/-- What is said of hexadecimal digits that are missing. -/
def missingDigits : Bytes := "missing hexadecimal number in escape".toList

/-- What is said of a number that no character has. -/
def badCharacter (spelling : Bytes) : Bytes := "invalid universal character name \\".toList ++ spelling

/-- Replaces all backslash sequences, up to one that ends printing or is faulty. -/
def replace (e : Escapes) : Nat → Bytes → Bytes × Ended
  | 0, cs => (cs, .whole)
  | _ + 1, [] => ([], .whole)
  | fuel + 1, '\\' :: cs =>
    match e.read cs with
    | .bytes text rest =>
      let (more, ended) := replace e fuel rest
      (text ++ more, ended)
    | .stop => ([], .stopped)
    | .noDigits =>
      if e.demandsDigits then ([], .faulty missingDigits)
      else
        let (more, ended) := replace e fuel cs
        ('\\' :: more, ended)
    | .noCharacter spelling => ([], .faulty (badCharacter spelling))
  | fuel + 1, c :: cs =>
    let (more, ended) := replace e fuel cs
    (c :: more, ended)

/-- Replaces all backslash sequences of a text. -/
def all (e : Escapes) (cs : Bytes) : Bytes × Ended := e.replace cs.length cs

end Escapes

/-! ## Lines of words -/

/-- The words with spaces between them. -/
def sentence (words : List Bytes) : Bytes := List.intercalate [' '] words

/-- The words with a line end behind them. -/
def line (words : List Bytes) : Bytes := sentence words ++ ['\n']

/-- A line whose backslash sequences are replaced; the line end can be left out. -/
def escapedLine (e : Escapes) (ends : Bool) (words : List Bytes) : Bytes :=
  let (text, ended) := e.all (sentence words)
  if ended ≠ .whole ∨ !ends then text else text ++ ['\n']

namespace Echo

/-- What the program knows if it is asked to replace backslash sequences. -/
def escapes : Escapes := { hex := true, zero := true, stops := true }

/-- The options at the front of the words: letters behind a single dash, of which none is unknown.
    Returned are whether a line end is left out and whether sequences are replaced. -/
def options : Bool × Bool → List Bytes → (Bool × Bool) × List Bytes
  | flags, word :: words =>
    match word with
    | '-' :: letters =>
      if letters ≠ [] ∧ letters.all (fun l => l = 'n' || l = 'e' || l = 'E') then
        let one (flags : Bool × Bool) (l : Char) : Bool × Bool :=
          if l = 'n' then (true, flags.2) else (flags.1, l = 'e')
        options (letters.foldl one flags) words
      else (flags, word :: words)
    | _ => (flags, word :: words)
  | flags, [] => (flags, [])

/-- What the program prints. -/
def output (words : List Bytes) : Bytes :=
  let ((bare, replaces), words) := options (false, false) words
  if replaces then escapedLine escapes (!bare) words
  else if bare then sentence words
  else line words

/-- What the shell knows, which always replaces backslash sequences. -/
def shellEscapes : Escapes := { zero := true, stops := true }

/-- What the shell prints. -/
def shellOutput : List Bytes → Bytes
  | ['-', 'n'] :: words => escapedLine shellEscapes false words
  | words => escapedLine shellEscapes true words

end Echo
end SessionControl.Programs
