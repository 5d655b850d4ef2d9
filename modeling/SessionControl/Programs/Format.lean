import SessionControl.Numeric.Extended
import SessionControl.Programs.Escapes

set_option autoImplicit false

/-! # Formats

Printing words by a format: directives behind percent signs take a word each, all else is printed as
it is. The format is used again as long as words are left. A word that is not the number that it
should be is complained about and taken for what it begins with. -/

namespace SessionControl.Programs

/-- What distinguishes programs that print by a format. -/
structure FormatRules where
  /-- The backslash sequences of a format. -/
  escapes : Escapes
  /-- The backslash sequences of a word that has them replaced. -/
  wordEscapes : Escapes
  /-- The precision of numbers with places, in bits. -/
  bits : Nat
  /-- How numbers are complained about: the word is put between quotes, or not. -/
  quotes : Bool
  /-- Letters of size in front of the kind of a directive, which have no meaning. -/
  sizes : Bytes
  /-- The code for a faulty format. -/
  faultCode : Nat

/-- The rules of the program. -/
def FormatRules.program : FormatRules where
  escapes := { letters := [('"', '"')], hex := true, stops := true, characters := true
               demandsDigits := true }
  wordEscapes := { letters := [('"', '"')], hex := true, zero := true, stops := true
                   characters := true, demandsDigits := true }
  bits := 64
  quotes := true
  sizes := ['h', 'l', 'L', 'j', 't', 'z']
  faultCode := 1

/-- The rules of the shell. -/
def FormatRules.shell : FormatRules where
  escapes := {}
  wordEscapes := { zero := true, stops := true }
  bits := 53
  quotes := false
  sizes := []
  faultCode := 2

namespace Format

/-- What has been printed, and what is left to do. -/
structure Progress where
  /-- Pieces of the output, and complaints between them. -/
  pieces : List (Except Bytes Bytes) := []
  code : Nat := 0
  /-- The words that are left. -/
  words : List Bytes
  /-- Whether printing has ended before the end of the format. -/
  stopped : Bool := false

namespace Progress

/-- Adds to what has been printed. -/
def print (p : Progress) (bytes : Bytes) : Progress := { p with pieces := p.pieces ++ [.ok bytes] }

/-- Adds a complaint. -/
def complain (p : Progress) (text : Bytes) : Progress :=
  { p with pieces := p.pieces ++ [.error text] }

/-- What has been printed. -/
def output (p : Progress) : Bytes := (p.pieces.filterMap Except.toOption).flatten

/-- What has been complained about. -/
def complaints (p : Progress) : List Bytes :=
  p.pieces.filterMap fun piece =>
    match piece with
    | .ok _ => none
    | .error text => some text

end Progress

/-- A directive: what is written before its kind. -/
structure Directive where
  flags : Bytes := []
  width : Nat := 0
  precision : Option Nat := none
  kind : Char

namespace Directive

def left (d : Directive) : Bool := d.flags.contains '-'

def alternate (d : Directive) : Bool := d.flags.contains '#'

/-- Pads to the width, with zeros between the sign and the digits if asked for. -/
def pad (d : Directive) (zeros : Bool) (sign body : Bytes) : Bytes :=
  if d.left then Bytes.padRight ' ' d.width (sign ++ body)
  else if zeros ∧ d.flags.contains '0' then
    sign ++ Bytes.padLeft '0' (d.width - sign.length) body
  else Bytes.padLeft ' ' d.width (sign ++ body)

/-- The sign of a number. -/
def sign (d : Directive) (negative : Bool) : Bytes :=
  if negative then ['-']
  else if d.flags.contains '+' then ['+']
  else if d.flags.contains ' ' then [' ']
  else []

/-- A text, cut to the precision. -/
def text (d : Directive) (bytes : Bytes) : Bytes :=
  d.pad false [] (match d.precision with | some n => bytes.take n | none => bytes)

/-- The digits of a number in a base. -/
def digitsIn (base n : Nat) : Bytes := Nat.toDigits base n

/-- Letters made large. -/
def upper (bytes : Bytes) : Bytes := bytes.map Ascii.upper

/-- A whole number. -/
def whole (d : Directive) (n : Int) : Bytes :=
  let unsigned := if n < 0 then (n + (Nat.pow 2 64 : Nat)).toNat else n.toNat
  let zeros := d.precision = none
  let body (ds : Bytes) : Bytes :=
    if d.precision = some 0 ∧ n = 0 then [] else Bytes.padLeft '0' (d.precision.getD 1) ds
  match d.kind with
  | 'o' =>
    let ds := body (digitsIn 8 unsigned)
    d.pad zeros [] (if d.alternate ∧ ds.head? ≠ some '0' then '0' :: ds else ds)
  | 'x' => d.pad zeros (if d.alternate ∧ n ≠ 0 then "0x".toList else []) (body (digitsIn 16 unsigned))
  | 'X' =>
    d.pad zeros (if d.alternate ∧ n ≠ 0 then "0X".toList else [])
      (body (upper (digitsIn 16 unsigned)))
  | 'u' => d.pad zeros [] (body (Decimal.digits unsigned))
  | _ => d.pad zeros (d.sign (n < 0)) (body (Decimal.digits n.natAbs))

end Directive

/-! ## Numbers in words -/

/-- What a word says about a number. -/
structure Number (α : Type) where
  value : α
  /-- What is left of the word behind the number; `none` if there is no number at all. -/
  rest : Option Bytes
  /-- Whether the number is too large. -/
  exceeds : Bool := false
  /-- What is passed over behind a character that stands for its number. -/
  behind : Bytes := []

/-- The number of a character behind a quote. -/
def character? : Bytes → Option (Nat × Bytes)
  | '\'' :: c :: rest => some (c.toNat, rest)
  | '"' :: c :: rest => some (c.toNat, rest)
  | _ => none

/-- Reads a whole number: decimal, octal behind a zero, hexadecimal behind `0x`. -/
def whole (signed : Bool) (word : Bytes) : Number Int :=
  match character? word with
  | some (n, behind) => { value := n, rest := some [], behind }
  | none =>
    let (negative, ds) := Decimal.splitSign (word.dropWhile Ascii.isSpace)
    if word = [] then { value := 0, rest := some [] }
    else if Ascii.startsWithDigit 10 ds then
      let (n, rest) := Ascii.leadingNumber ds
      let limit := Nat.pow 2 (if signed then 63 else 64)
      if signed ∧ negative then
        { value := -((min n limit : Nat) : Int), rest := some rest, exceeds := decide (limit < n) }
      else
        { value := if negative then -(n : Int) else (min n (limit - 1) : Nat)
          rest := some rest
          exceeds := decide (limit ≤ n) }
    else { value := 0, rest := none }

/-- A number with places: its sign and its value, if it is finite. -/
inductive Real
  | finite (negative : Bool) (x : Fraction)
  | infinite (negative : Bool)
  | notANumber (negative : Bool)

/-- Whether the word begins with letters, of any size. -/
def startsWith (letters : String) (word : Bytes) : Bool :=
  (Directive.upper word).take letters.length = letters.toList

/-- Reads an exponent behind its letter, if there is one. -/
def exponent (letter : Char) (cs : Bytes) : Int × Bytes :=
  match cs with
  | c :: rest =>
    if Ascii.upper c = letter then
      let (negative, ds) := Decimal.splitSign rest
      let run := ds.takeWhile Decimal.isDigit
      if run = [] then (0, cs)
      else
        let n : Int := Decimal.ofDigits run
        (if negative then -n else n, ds.drop run.length)
    else (0, cs)
  | [] => (0, cs)

/-- Reads digits with an optional point. Told are the digits and how many are behind the point. -/
def pointed (isDigit : Char → Bool) (cs : Bytes) : Bytes × Nat × Bytes :=
  let before := cs.takeWhile isDigit
  match cs.drop before.length with
  | '.' :: rest =>
    let after := rest.takeWhile isDigit
    (before ++ after, after.length, rest.drop after.length)
  | rest => (before, 0, rest)

/-- Reads a number with places. -/
def real (word : Bytes) : Number Real :=
  match character? word with
  | some (n, behind) => { value := .finite false ⟨n, 1⟩, rest := some [], behind }
  | none =>
    let (negative, cs) := Decimal.splitSign (word.dropWhile Ascii.isSpace)
    let zero : Real := .finite false ⟨0, 1⟩
    if word = [] then { value := zero, rest := some [] }
    else if startsWith "INFINITY" cs then { value := .infinite negative, rest := some (cs.drop 8) }
    else if startsWith "INF" cs then { value := .infinite negative, rest := some (cs.drop 3) }
    else if startsWith "NAN" cs then { value := .notANumber negative, rest := some (cs.drop 3) }
    else if startsWith "0X" cs ∧
        Ascii.startsWithDigit 16 (cs.drop 2) then
      let (ds, places, rest) := pointed (Ascii.isDigitIn 16) (cs.drop 2)
      let (e, rest) := exponent 'P' rest
      let power := max (-20000) (min 20000 (e - 4 * places))
      { value := .finite negative (.ofPower (Ascii.ofDigits 16 ds) 2 power)
        rest := some rest }
    else
      let (ds, places, rest) := pointed Decimal.isDigit cs
      if ds = [] then { value := zero, rest := none }
      else
        let (e, rest) := exponent 'E' rest
        let power := max (-5000) (min 5000 (e - places))
        { value := .finite negative (.ofPower (Decimal.ofDigits ds) 10 power), rest := some rest }

/-- A character between quotes: with a backslash before a quote or a backslash, and as a letter or in
    octal digits if it cannot be shown. -/
def quotedChar (c : Char) : Bytes :=
  if c = '\'' ∨ c = '\\' then ['\\', c]
  else if ' ' ≤ c ∧ c ≤ '~' then [c]
  else
    match Escapes.common.find? fun l => l.2 = c ∧ l.1 ≠ 'e' with
    | some (letter, _) => ['\\', letter]
    | none => '\\' :: Bytes.padLeft '0' 3 (Nat.toDigits 8 c.toNat)

/-- A word between quotes. -/
def quoted (word : Bytes) : Bytes := '\'' :: word.flatMap quotedChar ++ ['\'']

/-- What is wrong with a word that should be a number. -/
def complaint? {α : Type} (rules : FormatRules) (word : Bytes) (n : Number α) : Option Bytes :=
  let shown := if rules.quotes then quoted word else word
  match n.rest with
  | none =>
    some (shown ++
      (if rules.quotes then ": expected a numeric value" else ": expected numeric value").toList)
  | some rest =>
    if n.exceeds then some (shown ++ ": Numerical result out of range".toList)
    else if rest ≠ [] then
      some (shown ++
        (if rules.quotes then ": value not completely converted"
          else ": not completely converted").toList)
    else none

/-- Takes the next word. -/
def nextWord (p : Progress) : Bytes × Progress := (p.words.headD [], { p with words := p.words.tail })

/-- Takes the next word as a number, and complains if it is none. -/
def nextNumber {α : Type} (rules : FormatRules) (read : Bytes → Number α) (p : Progress) :
    α × Progress :=
  let (word, p) := nextWord p
  let n := read word
  match complaint? rules word n with
  | some text => (n.value, { p.complain text with code := 1 })
  | none =>
    if rules.quotes ∧ n.behind ≠ [] then
      (n.value, p.complain ("warning: ".toList ++ n.behind ++
        ": character(s) following character constant have been ignored".toList))
    else (n.value, p)

/-- Writes a number with places. -/
def realText (rules : FormatRules) (d : Directive) : Real → Bytes
  | .infinite negative => finish false (d.sign negative) "inf".toList
  | .notANumber negative => finish false (d.sign negative) "nan".toList
  | .finite negative x =>
    let x := x.toPrecision rules.bits
    let places := d.precision.getD 6
    let body :=
      match d.kind with
      | 'a' | 'A' => x.powerText rules.bits
      | 'f' | 'F' => x.fixedText places
      | 'e' | 'E' => x.scientificText places
      | _ => x.generalText places d.alternate
    finish true (d.sign negative) body
where
  finish (zeros : Bool) (sign body : Bytes) : Bytes :=
    d.pad zeros sign
      (if ['A', 'E', 'F', 'G'].contains d.kind then Directive.upper body else body)

/-! ## Directives -/

/-- Ends printing for a fault of the format. -/
def Progress.refuse (p : Progress) (code : Nat) (text : Bytes) : Progress :=
  { p.complain text with code, stopped := true, words := [] }

/-- Ends printing because the format or a word says so. To a program all has gone well then. -/
def Progress.stop (rules : FormatRules) (p : Progress) : Progress :=
  { p with stopped := true, words := [], code := if rules.quotes then 0 else p.code }

/-- Puts quotes around a word if it needs them in a shell. -/
def shellQuoted (word : Bytes) : Bytes :=
  let safe (c : Char) : Bool :=
    Ascii.isNameChar c || "+,-./:@%".toList.contains c
  if word = [] then "''".toList
  else if word.all safe then word
  else if word.contains '\'' ∧ !word.any fun c => "\"$\\\x60!".toList.contains c then
    '"' :: word ++ ['"']
  else '\'' :: word.flatMap (fun c => if c = '\'' then "'\\''".toList else [c]) ++ ['\'']

/-- Carries a directive out. -/
def directive (rules : FormatRules) (d : Directive) (source : Bytes) (p : Progress) : Progress :=
  match d.kind with
  | 's' =>
    let (word, p) := nextWord p
    p.print (d.text word)
  | 'c' =>
    let (word, p) := nextWord p
    p.print (d.pad false [] [word.headD '\x00'])
  | 'b' =>
    let (word, p) := nextWord p
    let (text, ended) := rules.wordEscapes.all word
    let p := p.print (d.text text)
    match ended with
    | .whole => p
    | .stopped => p.stop rules
    | .faulty text => p.refuse rules.faultCode text
  | 'q' =>
    if rules.quotes then
      match p.words with
      | word :: words => { p with words }.print (shellQuoted word)
      | [] => p
    else p.refuse rules.faultCode (source ++ ": invalid directive".toList)
  | 'd' | 'i' =>
    let (n, p) := nextNumber rules (whole true) p
    p.print (d.whole n)
  | 'o' | 'u' | 'x' | 'X' =>
    let (n, p) := nextNumber rules (whole false) p
    p.print (d.whole n)
  | 'a' | 'A' | 'e' | 'E' | 'f' | 'F' | 'g' | 'G' =>
    let (x, p) := nextNumber rules real p
    p.print (realText rules d x)
  | _ =>
    p.refuse rules.faultCode
      (if rules.quotes then source ++ ": invalid conversion specification".toList
        else source ++ ": invalid directive".toList)

/-- Reads a width or a precision: digits, or a star that takes a word. -/
def amount (rules : FormatRules) (cs : Bytes) (p : Progress) : Int × Bytes × Progress :=
  match cs with
  | '*' :: rest =>
    let (n, p) := nextNumber rules (whole true) p
    (n, rest, p)
  | _ =>
    let ds := cs.takeWhile Decimal.isDigit
    (Decimal.ofDigits ds, cs.drop ds.length, p)

/-- Carries out what begins with a percent sign, and returns what is behind it. -/
def percent (rules : FormatRules) (cs : Bytes) (p : Progress) : Bytes × Progress :=
  let flags := cs.takeWhile fun c =>
    c = '#' || c = '-' || c = '+' || c = ' ' || c = '0' || (rules.quotes && c = '\'')
  let (width, rest, p) := amount rules (cs.drop flags.length) p
  let (precision, rest, p) : Option Nat × Bytes × Progress :=
    match rest with
    | '.' :: rest =>
      let (n, rest, p) := amount rules rest p
      (if n < 0 then none else some n.toNat, rest, p)
    | rest => (none, rest, p)
  let rest := rest.dropWhile rules.sizes.contains
  match rest with
  | [] =>
    ([], if rules.quotes then
        p.refuse rules.faultCode ('%' :: cs ++ ": invalid conversion specification".toList)
      else p.refuse rules.faultCode "missing format character".toList)
  | kind :: after =>
    let source := '%' :: cs.take (cs.length - after.length)
    let flags := if width < 0 then '-' :: flags else flags
    let plain := flags = [] ∧ width = 0 ∧ precision = none
    -- Some kinds take no numbers before them.
    if rules.quotes ∧ ((kind = 'b' ∨ kind = 'q') ∧ ¬plain ∨
        (kind = 's' ∨ kind = 'c') ∧ flags.any fun f => ['#', '0', '\''].contains f) then
      (after, p.refuse rules.faultCode (source ++ ": invalid conversion specification".toList))
    else
      (after, directive rules { flags, width := width.natAbs, precision, kind } source p)

/-- Goes through a format once. -/
def once (rules : FormatRules) : Nat → Bytes → Progress → Progress
  | 0, _, p => p
  | _ + 1, [], p => p
  | fuel + 1, c :: cs, p =>
    if p.stopped then p
    else if c = '%' then
      match cs with
      | '%' :: rest => once rules fuel rest (p.print ['%'])
      | _ =>
        let (rest, p) := percent rules cs p
        once rules fuel rest p
    else if c = '\\' then
      match rules.escapes.read cs with
      | .bytes text rest => once rules fuel rest (p.print text)
      | .stop => p.stop rules
      | .noDigits => p.refuse rules.faultCode Escapes.missingDigits
      | .noCharacter spelling => p.refuse rules.faultCode (Escapes.badCharacter spelling)
    else once rules fuel cs (p.print [c])

/-- Goes through a format as often as it takes to use all words. -/
def rounds (rules : FormatRules) (format : Bytes) : Nat → Progress → Progress
  | 0, p => p
  | fuel + 1, p =>
    let q := once rules (format.length + 1) format p
    if q.stopped ∨ q.words = [] then q
    else if q.words.length = p.words.length then
      if rules.quotes then
        q.complain ("warning: ignoring excess arguments, starting with ".toList ++
          quoted (q.words.headD []))
      else q
    else rounds rules format fuel q

/-- Prints words by a format. -/
def print (rules : FormatRules) (format : Bytes) (words : List Bytes) : Progress :=
  rounds rules format (words.length + 1) { words }

end Format
end SessionControl.Programs
