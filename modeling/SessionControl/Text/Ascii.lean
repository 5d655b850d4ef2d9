import SessionControl.Text.Bytes

set_option autoImplicit false

/-! # ASCII

Families of the characters below U+0080, their digits in any base up to sixteen, and the spelling of
numbers whose beginning tells the base. -/

namespace SessionControl.Ascii

/-! ## Families -/

def isLower (c : Char) : Bool := 'a' ≤ c && c ≤ 'z'

def isUpper (c : Char) : Bool := 'A' ≤ c && c ≤ 'Z'

def isDigit (c : Char) : Bool := '0' ≤ c && c ≤ '9'

def isAlpha (c : Char) : Bool := isLower c || isUpper c

def isAlnum (c : Char) : Bool := isAlpha c || isDigit c

def isBlank (c : Char) : Bool := c = ' ' || c = '\t'

/-- White space: a space, a tab, or one of the ends of lines and pages. -/
def isSpace (c : Char) : Bool := c = ' ' || ('\t' ≤ c && c ≤ '\r')

def isGraph (c : Char) : Bool := '!' ≤ c && c ≤ '~'

def isPunct (c : Char) : Bool := isGraph c && !isAlnum c

def isControl (c : Char) : Bool := c < ' ' || c = '\x7f'

/-- A character that a name can begin with. -/
def isNameStart (c : Char) : Bool := isAlpha c || c = '_'

/-- A character that a name can hold. -/
def isNameChar (c : Char) : Bool := isAlnum c || c = '_'

/-- Whether bytes are a name. -/
def isName : Bytes → Bool
  | c :: cs => isNameStart c && cs.all isNameChar
  | [] => false

/-! ## Large and small letters -/

/-- The large letter of a small one; any other character stays. -/
def upper (c : Char) : Char := if isLower c then Char.ofNat (c.toNat - 32) else c

/-- The small letter of a large one; any other character stays. -/
def lower (c : Char) : Char := if isUpper c then Char.ofNat (c.toNat + 32) else c

/-! ## Digits -/

/-- The value of a digit. -/
def digitValue? (c : Char) : Option Nat :=
  if isDigit c then some (c.toNat - 48)
  else if 'a' ≤ c ∧ c ≤ 'f' then some (c.toNat - 87)
  else if 'A' ≤ c ∧ c ≤ 'F' then some (c.toNat - 55)
  else none

/-- Whether a character is a digit in a base. -/
def isDigitIn (base : Nat) (c : Char) : Bool :=
  match digitValue? c with
  | some d => d < base
  | none => false

/-- The number that digits stand for in a base. -/
def ofDigits (base : Nat) (ds : Bytes) : Nat :=
  ds.foldl (fun n c => base * n + (digitValue? c).getD 0) 0

/-- Whether the bytes begin with a digit in a base. -/
def startsWithDigit (base : Nat) (cs : Bytes) : Bool :=
  match cs with
  | c :: _ => isDigitIn base c
  | [] => false

/-- The number at the front, and what is behind it: hexadecimal after `0x`, binary after `0b`, octal
    after a zero, else decimal. -/
def leadingNumber (cs : Bytes) : Nat × Bytes :=
  let run (base : Nat) (cs : Bytes) : Nat × Bytes :=
    (ofDigits base (cs.takeWhile (isDigitIn base)), cs.dropWhile (isDigitIn base))
  match cs with
  | '0' :: x :: rest =>
    if upper x = 'X' ∧ startsWithDigit 16 rest then run 16 rest
    else if upper x = 'B' ∧ startsWithDigit 2 rest then run 2 rest
    else run 8 cs
  | _ => run 10 cs

end SessionControl.Ascii
