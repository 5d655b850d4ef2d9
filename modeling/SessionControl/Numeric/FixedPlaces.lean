import SessionControl.Numeric.Binary64
import SessionControl.Numeric.Decimal

set_option autoImplicit false

/-! # Fixed places

A double precision number written with a fixed number of decimal places. The exact value is
rounded to the nearest multiple of the last place, a tie going to the even multiple. -/

namespace SessionControl.FixedPlaces

/-- The natural number nearest to `n / d`, the even one on a tie. -/
def roundHalfEven (n d : Nat) : Nat :=
  let q := n / d
  let r := n % d
  if 2 * r < d then q
  else if d < 2 * r then q + 1
  else if q % 2 = 0 then q else q + 1

/-- `count / 10 ^ places`, written with that many places after the point. -/
def scaledText (places count : Nat) : String :=
  let whole := Decimal.natText (count / Nat.pow 10 places)
  if places = 0 then whole
  else
    let ds := Decimal.digits (count % Nat.pow 10 places)
    whole ++ "." ++ String.ofList (List.replicate (places - ds.length) '0' ++ ds)

end SessionControl.FixedPlaces

namespace SessionControl.Binary64

/-- The text with `places` decimal places. The sign is kept even where everything rounds to zero. -/
def fixedText (places : Nat) (x : Binary64) : String :=
  let sign := if x.isNegative then "-" else ""
  match x.magnitude with
  | .notANumber => "NaN"
  | .infinite => sign ++ "inf"
  | .finite significand scale =>
    sign ++ FixedPlaces.scaledText places
      (FixedPlaces.roundHalfEven (significand * Nat.pow 2 scale * Nat.pow 10 places)
        (Nat.pow 2 1074))

end SessionControl.Binary64
