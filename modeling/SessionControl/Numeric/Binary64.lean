set_option autoImplicit false

/-! # Double precision numbers

A number of the 64-bit binary interchange format, kept as its bits. Two numbers are equal here
when their bits are, so that `0` and `-0` differ and a NaN equals itself; arithmetic is not needed
and not defined. -/

namespace SessionControl

/-- A double precision number, given by its bits. -/
structure Binary64 where
  bits : UInt64
  deriving DecidableEq, Repr, Inhabited

namespace Binary64

/-! ## Fields -/

/-- The sign bit. -/
def isNegative (x : Binary64) : Bool := Nat.pow 2 63 ≤ x.bits.toNat

/-- The biased exponent, below 2048. -/
def exponent (x : Binary64) : Nat := x.bits.toNat / Nat.pow 2 52 % Nat.pow 2 11

/-- The fraction field, below `2 ^ 52`. -/
def fraction (x : Binary64) : Nat := x.bits.toNat % Nat.pow 2 52

/-! ## Meaning -/

/-- What the bits stand for, the sign apart. -/
inductive Magnitude
  | notANumber
  | infinite
  /-- Stands for `significand * 2 ^ (scale - 1074)`, where `scale` counts steps above the smallest
      positive number. -/
  | finite (significand scale : Nat)
  deriving DecidableEq, Repr

/-- The magnitude of a number: an exponent of all ones is special, and one of zero has no
    implicit leading bit. -/
def magnitude (x : Binary64) : Magnitude :=
  if x.exponent = 2047 then
    if x.fraction = 0 then .infinite else .notANumber
  else if x.exponent = 0 then .finite x.fraction 0
  else .finite (Nat.pow 2 52 + x.fraction) (x.exponent - 1)

/-! ## Making numbers -/

/-- The bits of positive infinity; every finite positive number has smaller ones. -/
def infinityBits : Nat := 2047 * Nat.pow 2 52

/-- A number from a sign and the remaining 63 bits. -/
def ofSignBits (negative : Bool) (bits : Nat) : Binary64 :=
  ⟨UInt64.ofNat (if negative then Nat.pow 2 63 + bits else bits)⟩

def infinity (negative : Bool) : Binary64 := ofSignBits negative infinityBits

/-- The quiet NaN with an empty payload. -/
def nan (negative : Bool) : Binary64 := ofSignBits negative (infinityBits + Nat.pow 2 51)

end Binary64
end SessionControl
