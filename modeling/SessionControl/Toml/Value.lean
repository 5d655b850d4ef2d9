import SessionControl.Numeric.Nearest
import SessionControl.Toml.Token

set_option autoImplicit false

/-! # Values of a settings file

The values that a settings file can hold, and the numbers among them: integers of 64 bits in four
bases and finite decimals, either with single underscores between digits. -/

namespace SessionControl.Toml

/-- A value. -/
inductive Value
  | text (s : String)
  | integer (i : Int)
  | real (x : Binary64)
  | boolean (b : Bool)
  /-- A date or a time; which one is not looked into. -/
  | date
  | array (items : List Value)
  /-- A table. An `isOpen` one was begun by a key with dots and may grow by further such keys. -/
  | table (isOpen : Bool) (entries : List (String × Value))
  deriving Repr, Inhabited

/-- Names with values, in the order of their appearance. A name can appear more than once. -/
abbrev Table := List (String × Value)

/-! ## Runs of digits -/

/-- Whether a character is a digit of a base. -/
def isDigitOf (base : Nat) (c : Char) : Bool :=
  match hexValue? c with
  | some v => v < base
  | none => false

/-- How far a run of digits has been read. -/
structure RunState where
  atStart : Bool := true
  startsWithZero : Bool := false
  afterUnderscore : Bool := false

/-- Reads a run of digits with single underscores between them, and returns what follows it. Where
    leading zeros are not allowed, nothing may follow a zero at the start but an underscore. -/
def digitRun (base : Nat) (leadingZeros : Bool) (s : RunState) :
    List Char → Option (List Char × List Char)
  | [] => if s.atStart || s.afterUnderscore then none else some ([], [])
  | c :: cs =>
    if c = '0' ∧ s.atStart then
      before [c] (digitRun base leadingZeros { s with atStart := false, startsWithZero := true } cs)
    else if isDigitOf base c then
      if !s.atStart && s.startsWithZero && !leadingZeros then none
      else
        before [c]
          (digitRun base leadingZeros { s with atStart := false, afterUnderscore := false } cs)
    else if c = '_' ∧ s.atStart then none
    else if c = '_' ∧ !s.afterUnderscore then
      before [c]
        (digitRun base leadingZeros { s with atStart := false, afterUnderscore := true } cs)
    else if s.atStart || s.afterUnderscore then none
    else some ([], c :: cs)

/-- Reads a run of decimal digits behind an optional sign. -/
def signedRun (leadingZeros : Bool) : List Char → Option (List Char × List Char)
  | '+' :: cs => before ['+'] (digitRun 10 leadingZeros {} cs)
  | '-' :: cs => before ['-'] (digitRun 10 leadingZeros {} cs)
  | cs => digitRun 10 leadingZeros {} cs

/-- The digits of a run without its underscores. -/
def digitsOf (run : List Char) : List Char := run.filter (· ≠ '_')

/-! ## Integers -/

/-- An integer, if it fits 64 bits with a sign. -/
def inRange? (i : Int) : Option Int :=
  if Int64.minValue.toInt ≤ i ∧ i ≤ Int64.maxValue.toInt then some i else none

/-- The number that digits of a base stand for. -/
def numberOf (base : Nat) (ds : List Char) : Nat :=
  ds.foldl (fun n c => base * n + (hexValue? c).getD 0) 0

/-- Reads an integer of another base than ten, which has no sign. -/
def basedInteger? (base : Nat) (cs : List Char) : Option Int :=
  match digitRun base true {} cs with
  | some (run, []) => inRange? (numberOf base (digitsOf run))
  | _ => none

/-- Reads a decimal integer. -/
def integer? (cs : List Char) : Option Int :=
  match signedRun false cs with
  | some (run, []) =>
    let (negative, ds) := Decimal.splitSign (digitsOf run)
    let n : Int := numberOf 10 ds
    inRange? (if negative then -n else n)
  | _ => none

/-! ## Decimals -/

/-- A decimal from its parts, if it is finite. -/
def assemble? (whole places exponent : List Char) : Option Binary64 := do
  let text :=
    digitsOf whole ++
      (if places = [] then [] else '.' :: digitsOf places) ++
      (if exponent = [] then [] else 'e' :: digitsOf exponent)
  let x ← Binary64.ofText? (String.ofList text)
  match x.magnitude with
  | .finite _ _ => some x
  | _ => none

/-- Reads the exponent of a decimal, which may be split from its sign by the cutting into tokens. -/
def exponent? (suffix : List Char) (ts : List Token) : Option (List Char × List Token) :=
  match suffix with
  | [] => some ([], ts)
  | [c] =>
    if c = 'e' ∨ c = 'E' then
      let ts :=
        match ts with
        | .plus :: r => r
        | r => r
      match ts with
      | .bare s :: r =>
        match digitRun 10 true {} s with
        | some (run, []) => some (run, r)
        | _ => none
      | _ => none
    else none
  | c :: cs =>
    if c = 'e' ∨ c = 'E' then
      match signedRun true cs with
      | some (run, []) => some (run, ts)
      | _ => none
    else none

/-- Reads a decimal from its part before the point and, if there is one, the part behind it. -/
def decimal? (s : List Char) (behind : Option (List Char)) (ts : List Token) :
    Option (Binary64 × List Token) := do
  let (whole, suffix) ← signedRun false s
  let (places, suffix) ←
    match behind with
    | none => some ([], suffix)
    | some cs => if suffix = [] then digitRun 10 true {} cs else none
  let (exponent, ts) ← exponent? suffix ts
  let x ← assemble? whole places exponent
  some (x, ts)

/-- Reads a number from a word and what follows it. -/
def number? (s : List Char) (ts : List Token) : Option (Value × List Token) :=
  match s with
  | '0' :: 'x' :: cs => (basedInteger? 16 cs).map fun i => (.integer i, ts)
  | '0' :: 'o' :: cs => (basedInteger? 8 cs).map fun i => (.integer i, ts)
  | '0' :: 'b' :: cs => (basedInteger? 2 cs).map fun i => (.integer i, ts)
  | _ =>
    if s.contains 'e' || s.contains 'E' then
      (decimal? s none ts).map fun (x, r) => (.real x, r)
    else
      match ts with
      | .period :: .bare behind :: r =>
        (decimal? s (some behind) r).map fun (x, r) => (.real x, r)
      | .period :: _ => none
      | _ =>
        if s = "inf".toList then some (.real (Binary64.infinity false), ts)
        else if s = "-inf".toList then some (.real (Binary64.infinity true), ts)
        else if s = "nan".toList then some (.real (Binary64.nan false), ts)
        else if s = "-nan".toList then some (.real (Binary64.nan true), ts)
        else (integer? s).map fun i => (.integer i, ts)

/-! ## Dates -/

/-- Whether a word begins a date, or a date with a time. -/
def looksLikeDate (s : List Char) : Bool :=
  s.contains 'T' || s.contains 't' ||
    ((s.drop 1).contains '-' && !hasNegativeExponent s)
where
  /-- Whether a minus sign stands behind an exponent mark. -/
  hasNegativeExponent : List Char → Bool
    | 'e' :: '-' :: _ => true
    | 'E' :: '-' :: _ => true
    | _ :: cs => hasNegativeExponent cs
    | [] => false

/-- Skips an optional word behind a mark. A mark without a word is an error. -/
def optionalWord (mark : Token) (ts : List Token) : Option (List Token) :=
  match ts with
  | t :: rest =>
    if t = mark then
      match rest with
      | .bare _ :: r => some r
      | _ => none
    else some ts
  | [] => some []

/-- Skips minutes, seconds, fraction and offset of a time. -/
def skipTime : List Token → Option (List Token)
  | .bare _ :: .colon :: .bare _ :: ts => do
    let ts ← optionalWord .period ts
    let ts ← optionalWord .plus ts
    optionalWord .colon ts
  | _ => none

/-- Skips what follows the first word of a date: a time may follow after one space or directly. -/
def skipDate (afterColon : Bool) (ts : List Token) : Option (List Token) :=
  let ts :=
    match ts with
    | .blank [' '] :: .bare _ :: r => r
    | r => r
  if afterColon then skipTime ts
  else
    match ts with
    | .colon :: r => skipTime r
    | r => some r

/-- Reads a number or a date from a word and what follows it. -/
def numberOrDate? (s : List Char) (ts : List Token) : Option (Value × List Token) :=
  if looksLikeDate s then (skipDate false ts).map fun r => (.date, r)
  else
    match ts with
    | .colon :: r => (skipDate true r).map fun r => (.date, r)
    | _ => number? s ts

/-- Reads the value that begins with a bare word. -/
def bareValue? (s : List Char) (ts : List Token) : Option (Value × List Token) :=
  if s = "true".toList then some (.boolean true, ts)
  else if s = "false".toList then some (.boolean false, ts)
  else if s = "inf".toList ∨ s = "nan".toList then numberOrDate? s ts
  else
    match s with
    | c :: _ => if c = '-' ∨ Decimal.isDigit c then numberOrDate? s ts else none
    | [] => none

end SessionControl.Toml
