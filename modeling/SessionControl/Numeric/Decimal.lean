set_option autoImplicit false

/-! # Decimal text

Natural numbers and integers written in base ten, and the reader for such text. Writing has no
leading zeros, so every number has one written form; reading allows them, and `ofDigits_digits`
says that reading gives back what was written. -/

namespace SessionControl.Decimal

/-! ## Writing -/

/-- The character of a digit; anything above nine wraps, which no caller relies on. -/
def digitChar (d : Nat) : Char := Char.ofNat (48 + d % 10)

/-- The decimal digits of `n`, most significant first. -/
def digits (n : Nat) : List Char :=
  if n < 10 then [digitChar n] else digits (n / 10) ++ [digitChar n]
termination_by n
decreasing_by omega

/-- The decimal text of a natural number. -/
def natText (n : Nat) : String := String.ofList (digits n)

/-- The decimal text of an integer: a minus sign before the digits of a negative one. -/
def intText : Int → String
  | .ofNat n => natText n
  | .negSucc n => "-" ++ natText (n + 1)

/-- How many digits `n` takes, where zero takes none. -/
def digitCount (n : Nat) : Nat := if n = 0 then 0 else (digits n).length

/-! ## Reading -/

/-- A decimal digit of the ASCII range. -/
def isDigit (c : Char) : Bool := '0' ≤ c && c ≤ '9'

/-- The number a digit stands for. -/
def digitValue (c : Char) : Nat := c.toNat - 48

/-- The number that a run of digits stands for, after the digits already read as `seen`. -/
def ofDigitsFrom (seen : Nat) (ds : List Char) : Nat :=
  ds.foldl (fun n c => 10 * n + digitValue c) seen

/-- The number that a run of digits stands for. -/
def ofDigits (ds : List Char) : Nat := ofDigitsFrom 0 ds

/-- A nonempty run of digits and nothing else. -/
def natural? (cs : List Char) : Option Nat :=
  if cs ≠ [] ∧ cs.all isDigit then some (ofDigits cs) else none

/-- Splits a leading sign off; the flag says that it is a minus. -/
def splitSign : List Char → Bool × List Char
  | '+' :: cs => (false, cs)
  | '-' :: cs => (true, cs)
  | cs => (false, cs)

/-- Reads an unsigned number below `bound`: digits with at most one plus sign before them. -/
def unsigned? (bound : Nat) (text : String) : Option Nat :=
  match text.toList with
  | '+' :: cs => (natural? cs).filter (· < bound)
  | cs => (natural? cs).filter (· < bound)

/-- Reads a signed number `i` with `-bound ≤ i < bound`: digits with at most one sign before
    them. -/
def signed? (bound : Nat) (text : String) : Option Int :=
  let (negative, cs) := splitSign text.toList
  match natural? cs with
  | none => none
  | some n =>
    if negative then if n ≤ bound then some (-(n : Int)) else none
    else if n < bound then some n else none

/-! ## Reading undoes writing -/

theorem digitValue_digitChar (d : Nat) : digitValue (digitChar d) = d % 10 := by
  have h : d % 10 < 10 := Nat.mod_lt _ (by decide)
  simp only [digitChar]
  generalize d % 10 = k at h
  match k, h with
  | 0, _ | 1, _ | 2, _ | 3, _ | 4, _ | 5, _ | 6, _ | 7, _ | 8, _ | 9, _ => rfl

theorem isDigit_digitChar (d : Nat) : isDigit (digitChar d) = true := by
  have h : d % 10 < 10 := Nat.mod_lt _ (by decide)
  simp only [digitChar]
  generalize d % 10 = k at h
  match k, h with
  | 0, _ | 1, _ | 2, _ | 3, _ | 4, _ | 5, _ | 6, _ | 7, _ | 8, _ | 9, _ => rfl

theorem ofDigits_append_singleton (ds : List Char) (c : Char) :
    ofDigits (ds ++ [c]) = 10 * ofDigits ds + digitValue c := by
  simp [ofDigits, ofDigitsFrom]

theorem ofDigits_digits (n : Nat) : ofDigits (digits n) = n := by
  fun_induction digits n with
  | case1 n h =>
    have : ofDigits [digitChar n] = digitValue (digitChar n) := by
      simp [ofDigits, ofDigitsFrom]
    rw [this, digitValue_digitChar]
    omega
  | case2 n h ih =>
    rw [ofDigits_append_singleton, ih, digitValue_digitChar]
    omega

theorem digits_ne_nil (n : Nat) : digits n ≠ [] := by
  unfold digits
  split <;> simp

theorem all_isDigit_digits (n : Nat) : (digits n).all isDigit = true := by
  fun_induction digits n with
  | case1 n h => simp [isDigit_digitChar]
  | case2 n h ih => simp [ih, isDigit_digitChar]

end SessionControl.Decimal
