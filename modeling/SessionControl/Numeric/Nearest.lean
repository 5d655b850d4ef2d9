import SessionControl.Numeric.Binary64
import SessionControl.Numeric.Decimal
import SessionControl.Numeric.FixedPlaces

set_option autoImplicit false

/-! # Reading double precision numbers

The number nearest to a decimal, and the grammar of the decimals that are read: digits with an
optional point, sign and exponent, or one of the words for infinity and NaN in any case. -/

namespace SessionControl.Nearest

/-! ## Rounding a fraction -/

/-- The scale at which `n / d`, counted in units of the smallest positive number, has a significand
    of 53 bits, or zero if it has fewer. -/
def scaleOf (n d : Nat) : Nat :=
  let guess := n.log2 - d.log2 - 52
  if n / (d * Nat.pow 2 guess) < Nat.pow 2 52 then guess - 1 else guess

/-- The bits nearest to the nonnegative fraction `n / d`, ties going to the even significand. The
    smallest positive number is `2 ^ (-1074)`. Because a significand of 53 bits carries its leading
    bit into the exponent field, the sum below serves numbers with and without that bit, and also a
    significand that rounds up to the next power of two. -/
def bitsOfFraction (n d : Nat) : Nat :=
  let n := n * Nat.pow 2 1074
  let scale := scaleOf n d
  min Binary64.infinityBits
    (scale * Nat.pow 2 52 + FixedPlaces.roundHalfEven n (d * Nat.pow 2 scale))

/-- The bits nearest to `coefficient * 10 ^ power`. Beyond a few hundred places the result is zero
    or infinite whatever the digits are. -/
def bitsOfDecimal (coefficient : Nat) (power : Int) : Nat :=
  let top := (Decimal.digitCount coefficient : Int) + power
  if coefficient = 0 then 0
  else if 400 < top then Binary64.infinityBits
  else if top < -400 then 0
  else
    match power with
    | .ofNat p => bitsOfFraction (coefficient * Nat.pow 10 p) 1
    | .negSucc p => bitsOfFraction coefficient (Nat.pow 10 (p + 1))

/-! ## The grammar -/

/-- Reads an exponent: an optional sign and at least one digit. -/
def exponent? (cs : List Char) : Option Int :=
  let (negative, ds) := Decimal.splitSign cs
  (Decimal.natural? ds).map fun n => if negative then -(n : Int) else n

/-- Reads digits with an optional point and exponent; there is a digit before or after the point. -/
def decimal? (cs : List Char) : Option (Nat × Int) :=
  let whole := cs.takeWhile Decimal.isDigit
  let rest := cs.dropWhile Decimal.isDigit
  let (places, rest) : List Char × List Char :=
    match rest with
    | '.' :: r => (r.takeWhile Decimal.isDigit, r.dropWhile Decimal.isDigit)
    | r => ([], r)
  let coefficient := Decimal.ofDigits (whole ++ places)
  if whole = [] ∧ places = [] then none
  else
    match rest with
    | [] => some (coefficient, -(places.length : Int))
    | 'e' :: r | 'E' :: r =>
      (exponent? r).map fun e => (coefficient, e - (places.length : Int))
    | _ => none

end SessionControl.Nearest

namespace SessionControl.Binary64

/-- Reads a number. Too large a decimal is infinite, not an error. -/
def ofText? (text : String) : Option Binary64 :=
  let (negative, cs) := Decimal.splitSign text.toList
  let word := String.ofList (cs.map Char.toLower)
  if word = "inf" ∨ word = "infinity" then some (infinity negative)
  else if word = "nan" then some (nan negative)
  else
    (Nearest.decimal? cs).map fun (coefficient, power) =>
      ofSignBits negative (Nearest.bitsOfDecimal coefficient power)

end SessionControl.Binary64
