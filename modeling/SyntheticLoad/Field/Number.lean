import SyntheticLoad.Random.Uniform

/-!
# Random numbers of a field

A range of a single value, or with its bounds out of order, gives its lower bound
and draws nothing. Amounts are floats with two decimals.
-/

namespace SyntheticLoad.Field

open SyntheticLoad.Random

section

variable {σ : Type} [WordSource σ]

/-- An integer between `low` and `high`, both included. -/
def intInRange (low high : Int64) : Draw σ Int64 :=
  if high ≤ low then pure low else intBetween low high

/-- A float at the nearest hundredth, moved back between the bounds. -/
def toHundredths (low high x : Float) : Float :=
  let y := (x * 100.0).round / 100.0
  let y := if y < low then low else y
  if high < y then high else y

/-- A float between `low` and `high` with two decimals. -/
def floatInRange (low high : Float) : Attempt σ Float :=
  if high ≤ low then
    pure low
  else do
    let x ← floatBetween low high
    pure (toHundredths low high x)

/-- One of some integers, or nothing if there are none. -/
def oneOfInts (choices : List Int64) : Draw σ (Option Int64) :=
  match choices with
  | [] => pure none
  | n :: ns => do
    let n ← pick n ns
    pure (some n)

end

end SyntheticLoad.Field
