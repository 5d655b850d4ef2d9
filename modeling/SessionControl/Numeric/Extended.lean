import SessionControl.Numeric.Decimal
import SessionControl.Numeric.FixedPlaces

set_option autoImplicit false

/-! # Fractions of limited precision

Nonnegative fractions, rounded to a number of significant bits and written with places or with an
exponent. Ties go to the even neighbour everywhere. -/

namespace SessionControl

/-- A nonnegative fraction. The denominator is not zero. -/
structure Fraction where
  numerator : Nat
  denominator : Nat
  deriving Repr

namespace Fraction

/-- The fraction `coefficient * base ^ power`. -/
def ofPower (coefficient base : Nat) : Int → Fraction
  | .ofNat p => ⟨coefficient * Nat.pow base p, 1⟩
  | .negSucc p => ⟨coefficient, Nat.pow base (p + 1)⟩

/-- The fraction times a power of a base. -/
def scale (base : Nat) (power : Int) (x : Fraction) : Fraction :=
  match power with
  | .ofNat p => ⟨x.numerator * Nat.pow base p, x.denominator⟩
  | .negSucc p => ⟨x.numerator, x.denominator * Nat.pow base (p + 1)⟩

/-- The whole number nearest to the fraction. -/
def round (x : Fraction) : Nat := FixedPlaces.roundHalfEven x.numerator x.denominator

/-- Whether the fraction is at least a whole number. -/
def atLeast (n : Nat) (x : Fraction) : Bool := n * x.denominator ≤ x.numerator

/-- The nearest fraction that has at most this many significant bits. -/
def toPrecision (bits : Nat) (x : Fraction) : Fraction :=
  if x.numerator = 0 then x
  else
    let guess : Int := (x.numerator.log2 : Int) - (x.denominator.log2 : Int) + 1 - bits
    let power := if (x.scale 2 (-guess)).atLeast (Nat.pow 2 (bits - 1)) then guess else guess - 1
    ofPower (x.scale 2 (-power)).round 2 power

/-- The greatest exponent of ten whose power the fraction is not below; zero for zero. -/
def exponent (x : Fraction) : Int :=
  if x.numerator = 0 then 0
  else
    let guess : Int := (Decimal.digits x.numerator).length - (Decimal.digits x.denominator).length
    if (x.scale 10 (-guess)).atLeast 1 then guess else guess - 1

/-- The text with a number of places. -/
def fixedText (places : Nat) (x : Fraction) : List Char :=
  (FixedPlaces.scaledText places (x.scale 10 places).round).toList

/-- The exponent behind its letter, with at least two digits. -/
def exponentText (e : Int) : List Char :=
  let ds := Decimal.digits e.natAbs
  (if e < 0 then '-' else '+') :: (List.replicate (2 - ds.length) '0' ++ ds)

/-- The digits and the exponent of the text with a number of places behind the first digit. -/
def scientific (places : Nat) (x : Fraction) : Nat × Int :=
  let e := x.exponent
  let n := (x.scale 10 (places - e)).round
  if n < Nat.pow 10 (places + 1) then (n, e) else (n / 10, e + 1)

/-- The text with one digit before the point and an exponent. -/
def scientificText (places : Nat) (x : Fraction) : List Char :=
  let (n, e) := x.scientific places
  (FixedPlaces.scaledText places n).toList ++ 'e' :: exponentText e

/-- Leaves out zeros at the end of the places, and the point if no place is left. -/
def trimZeros (text : List Char) : List Char :=
  if text.contains '.' then
    let kept := text.reverse.dropWhile (· = '0')
    ((if kept.head? = some '.' then kept.tail else kept)).reverse
  else text

/-- The text with a number of significant digits, in the shorter of the two forms. Zeros at the end
    are kept only if asked for. -/
def generalText (digits : Nat) (keepsZeros : Bool) (x : Fraction) : List Char :=
  let digits := max digits 1
  let (n, e) := x.scientific (digits - 1)
  let trim := if keepsZeros then id else trimZeros
  if e < -4 ∨ (digits : Int) ≤ e then
    trim (FixedPlaces.scaledText (digits - 1) n).toList ++ 'e' :: exponentText e
  else trim (x.fixedText ((digits : Int) - 1 - e).toNat)

/-- The text with sixteen as base and two as base of the exponent: one digit before the point, which
    with a precision of `bits` is as large as the first of them allows, and no zeros at the end. -/
def powerText (bits : Nat) (x : Fraction) : List Char :=
  if x.numerator = 0 then "0x0p+0".toList
  else
    let guess : Int := (x.numerator.log2 : Int) - (x.denominator.log2 : Int) + 1 - bits
    let power := if (x.scale 2 (-guess)).atLeast (Nat.pow 2 (bits - 1)) then guess else guess - 1
    let digits := Nat.toDigits 16 (x.scale 2 (-power)).round
    let places := (digits.tail.reverse.dropWhile (· = '0')).reverse
    let e := power + 4 * (digits.length - 1 : Nat)
    "0x".toList ++ digits.take 1 ++ (if places = [] then [] else '.' :: places) ++
      'p' :: (if e < 0 then '-' else '+') :: Decimal.digits e.natAbs

end Fraction
end SessionControl
