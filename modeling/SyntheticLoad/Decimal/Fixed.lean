import SyntheticLoad.Decimal.Binary
import SyntheticLoad.Text.Numeral

/-!
# A fixed number of places

A float with a fixed number of places after the point is its exact value rounded
to a whole number of units of the last place, ties to even (`roundDiv`).
-/

namespace SyntheticLoad.Decimal

open Text

/-- The whole number nearest to `num / den`, the even one of two. -/
def roundDiv (num den : Nat) : Nat :=
  let q := num / den
  let r := num % den
  if 2 * r < den then q
  else if den < 2 * r then q + 1
  else if q % 2 = 0 then q
  else q + 1

/-- A number of units of the last place, written with a point before the last
    `places` digits. -/
def withPoint (places units : Nat) : List Char :=
  if places = 0 then
    digits units
  else
    let unit := Nat.pow 10 places
    digits (units / unit) ++ '.' :: padded places (units % unit)

/-- A float with `places` places after the point. -/
def fixed (places : Nat) (x : Float) : String :=
  match Reading.ofBits x.toBits with
  | .nan => "NaN"
  | .infinite negative => if negative then "-inf" else "inf"
  | .finite negative b =>
    let v := b.value
    let text := withPoint places (roundDiv (v.num * Nat.pow 10 places) v.den)
    String.ofList (if negative then '-' :: text else text)

end SyntheticLoad.Decimal
