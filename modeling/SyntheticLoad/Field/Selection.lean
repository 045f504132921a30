import SyntheticLoad.Field.Letters
import SyntheticLoad.Random.Subset

/-!
# Random lists

A selection takes items from distinct places of a pool, so it repeats an item
only if the pool does. Its size is drawn between the wanted bounds as far as the
pool reaches. An empty pool, or a bound of zero, gives the empty list and draws
nothing.
-/

namespace SyntheticLoad.Field

open SyntheticLoad.Random

section

variable {σ : Type} [WordSource σ]

/-- A size of a range, which must not be empty. -/
def sizeOfRange (low high : Nat) : Attempt σ Nat :=
  if high < low then throw (.emptyRange low high) else Draw.attempt (sizeBetween low high)

/-- The item at a place of a pool. -/
def itemAt (pool : List String) (place : Nat) : Attempt σ String :=
  match pool[place]? with
  | some item => pure item
  | none => throw (.noSuchPlace place)

/-- Between `low` and `high` items of a pool, from distinct places. -/
def selection (pool : List String) (low high : Nat) : Attempt σ (List String) :=
  if pool = [] ∨ high = 0 then
    pure []
  else do
    let most := min high pool.length
    let count ← sizeOfRange (min low most) most
    let places ← distinctPlaces pool.length count
    places.mapM (itemAt pool)

/-- Between `low` and `high` texts of letters and digits, each of the same length. -/
def textList (low high length : Nat) : Draw σ (List String) := do
  let count ← sizeInRange low high
  Draw.times (alphanumeric length) count

end

end SyntheticLoad.Field
