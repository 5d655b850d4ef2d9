import SessionControl.Numeric.Binary64
import SessionControl.Numeric.Decimal

set_option autoImplicit false

/-! # Shortest decimals

The decimal with the fewest significant digits that reads back as a given double precision number,
and its text without an exponent. Every decimal of the number's *rounding interval* reads back as
the number. Decimals with `k` significant digits lie on a grid; the shortest one is found on the
first grid, `k = 1, 2, …`, of which one of the number's two neighbours lies in the interval. Of two
such neighbours the nearer one is taken, and the upper one if both are equally near. -/

namespace SessionControl.Shortest

/-- A positive decimal: `coefficient * 10 ^ power`. -/
structure Decimal10 where
  coefficient : Nat
  power : Int
  deriving DecidableEq, Repr

/-! ## The rounding interval -/

/-- The decimals that read back as a number. All three points are fractions over `denominator`; the
    ends belong to the interval if `closed` is set. -/
structure Interval where
  low : Nat
  value : Nat
  high : Nat
  denominator : Nat
  closed : Bool

/-- The interval around `significand * 2 ^ (scale - 1074)`. The gap below a power of two is half the
    gap above it; the ends, being ties, go to the even significand. -/
def Interval.around (significand scale : Nat) : Interval :=
  let unit := Nat.pow 2 scale
  let below := if significand = Nat.pow 2 52 ∧ 0 < scale then 1 else 2
  { low := (4 * significand - below) * unit
    value := 4 * significand * unit
    high := (4 * significand + 2) * unit
    denominator := Nat.pow 2 1076
    closed := significand % 2 = 0 }

/-- Whether `n / d` lies in the interval. -/
def Interval.contains (i : Interval) (n d : Nat) : Bool :=
  let n := n * i.denominator
  if i.closed then i.low * d ≤ n && n ≤ i.high * d else i.low * d < n && n < i.high * d

/-! ## Grids -/

/-- The power `e` with `10 ^ (e - 1) ≤ n / d < 10 ^ e`, for a positive fraction. -/
def magnitudePower (n d : Nat) : Int :=
  if d ≤ n then (Decimal.digitCount (n / d) : Int)
  else 1 - (Decimal.digitCount ((d + n - 1) / n - 1) : Int)

/-- The fraction `n / d` in units of `10 ^ power`. -/
def inUnits (n d : Nat) (power : Int) : Nat × Nat :=
  match power with
  | .ofNat p => (n, d * Nat.pow 10 p)
  | .negSucc p => (n * Nat.pow 10 (p + 1), d)

/-- The decimal `coefficient * 10 ^ power` as a fraction. -/
def asFraction (coefficient : Nat) (power : Int) : Nat × Nat :=
  match power with
  | .ofNat p => (coefficient * Nat.pow 10 p, 1)
  | .negSucc p => (coefficient, Nat.pow 10 (p + 1))

/-- The best decimal of the interval on the grid of multiples of `10 ^ power`, if there is one. -/
def onGrid (i : Interval) (power : Int) : Option Decimal10 :=
  let (n, d) := inUnits i.value i.denominator power
  let lower := n / d
  let upper := lower + 1
  let inside (c : Nat) : Bool :=
    let (cn, cd) := asFraction c power
    i.contains cn cd
  match inside lower && 0 < lower, inside upper with
  | true, true => some ⟨if 2 * (n % d) < d then lower else upper, power⟩
  | true, false => some ⟨lower, power⟩
  | false, true => some ⟨upper, power⟩
  | false, false => none

/-- Tries grids from `count` digits on, `tries` of them. -/
def search (i : Interval) (e : Int) (count : Nat) : Nat → Option Decimal10
  | 0 => none
  | tries + 1 =>
    match onGrid i (e - count) with
    | some d => some d
    | none => search i e (count + 1) tries

/-- Moves trailing zeros of the coefficient into the power. -/
def Decimal10.normalize (d : Decimal10) : Decimal10 :=
  if h : 0 < d.coefficient ∧ d.coefficient % 10 = 0 then
    normalize ⟨d.coefficient / 10, d.power + 1⟩
  else d
termination_by d.coefficient
decreasing_by omega

/-- The shortest decimal of a positive finite number. Seventeen digits always suffice; the last
    alternative is the exact value, in a form that needs no search. -/
def ofFinite (significand scale : Nat) : Decimal10 :=
  let i := Interval.around significand scale
  match search i (magnitudePower i.value i.denominator) 1 17 with
  | some d => d.normalize
  | none => (Decimal10.mk (significand * Nat.pow 2 scale * Nat.pow 5 1074) (-1074)).normalize

/-! ## Text -/

/-- The decimal written out with zeros in place of an exponent. -/
def Decimal10.text (d : Decimal10) : String :=
  let ds := Decimal.digits d.coefficient
  match d.power with
  | .ofNat p => String.ofList (ds ++ List.replicate p '0')
  | .negSucc p =>
    let places := p + 1
    if places < ds.length then
      String.ofList (ds.take (ds.length - places) ++ '.' :: ds.drop (ds.length - places))
    else String.ofList ('0' :: '.' :: List.replicate (places - ds.length) '0' ++ ds)

/-- The text of a double precision number: the fewest digits that read back, with a sign if the
    number has one (zero included), without a fraction if it is whole. -/
def text (x : Binary64) : String :=
  let sign := if x.isNegative then "-" else ""
  match x.magnitude with
  | .notANumber => "NaN"
  | .infinite => sign ++ "inf"
  | .finite 0 _ => sign ++ "0"
  | .finite significand scale => sign ++ (ofFinite significand scale).text

end SessionControl.Shortest

namespace SessionControl.Binary64

/-- The shortest text that reads back as the number. -/
def text (x : Binary64) : String := Shortest.text x

end SessionControl.Binary64
