import SyntheticLoad.Random.Uniform

/-!
# Distinct places

`distinctPlaces size count` draws `count` distinct places of a list of length
`size`, in random order. Three methods share the work. Floyd's method draws one
place for each of the last `count` lengths and lets a place that is drawn again
give way to the newest one; its cost is quadratic in `count` and does not depend
on `size`. Shuffling the first `count` cells of the list of all places costs
`size` cells and no search. Rejection draws places of the whole list and throws
those away that it has already. The first is used for a few places of a long list,
the second for many places of a short one, the third for many places of a long one.

Only rejection can go on for ever, when the source has no new places left to give.
-/

namespace SyntheticLoad.Random

section

variable {σ : Type} [WordSource σ]

/-- A uniform place between `low` and `high`, both included. -/
def placeBetween (low high : Nat) : Draw σ Nat := do
  let k ← offset .w32 (high - low + 1)
  pure (low + k)

/-! ### Floyd's method -/

/-- One round of Floyd's method: `t` is new in the list, or takes the cell of its
    earlier occurrence's replacement `j`. -/
def admitPlace (chosen : List Nat) (t j : Nat) : List Nat :=
  chosen.map (fun x => if x = t then j else x) ++ [t]

/-- Floyd's method from length `j` on, for `count` more places. -/
def floyd (chosen : List Nat) (j : Nat) : Nat → Draw σ (List Nat)
  | 0 => pure chosen
  | count + 1 => do
    let t ← placeBetween 0 j
    floyd (admitPlace chosen t j) (j + 1) count

/-! ### Shuffling -/

/-- The first `count` rounds of a shuffle from cell `i` on: each cell changes
    places with a later one or with itself. -/
def shuffle (cells : Array Nat) (i : Nat) : Nat → Draw σ (Array Nat)
  | 0 => pure cells
  | count + 1 => do
    let j ← placeBetween i (cells.size - 1)
    shuffle (cells.swapIfInBounds i j) (i + 1) count

/-! ### Rejection -/

/-- The place below `size` that a word names. The words with the smallest low halves
    name none, so that every place is named by the same number of words. -/
def namedPlace? (w : Width) (size word : Nat) : Option Nat :=
  if word * size % w.values < (w.values - size) % size then none
  else some (word * size / w.values)

/-- A place below `size` that is not among those chosen. -/
def newPlace (w : Width) (size : Nat) (chosen : List Nat) : Attempt σ Nat :=
  Draw.retry do
    let word ← raw w
    pure ((namedPlace? w size word).filter (· ∉ chosen))

/-- Rejection for `count` more places, in the order in which they are found. -/
def reject (w : Width) (size : Nat) (chosen : List Nat) : Nat → Attempt σ (List Nat)
  | 0 => pure []
  | count + 1 => do
    let place ← newPlace w size chosen
    let places ← reject w size (place :: chosen) count
    pure (place :: places)

/-! ### The choice -/

/-- How distinct places are drawn. -/
inductive Method
  | floyd
  | shuffle
  | rejection
  deriving DecidableEq, Repr

/-- The method for `count` places of a list of length `size`. The bounds on the length
    are computed in single precision, and are lower for long lists. A list whose
    places do not fit into 32 bits is never shuffled. -/
def Method.of (size count : Nat) : Method :=
  if Width.w32.values ≤ size then
    .rejection
  else if count < 163 then
    let n := Float32.ofNat count
    let bound := if size < 500000 then (10.0 + 1.6 * n) * n else (70.0 / 9.0 + 8.0 / 45.0 * n) * n
    if 11 < count ∧ Float32.ofNat size < bound then .shuffle else .floyd
  else
    let times : Float32 := if size < 500000 then 270.0 else 330.0 / 9.0
    if Float32.ofNat size < times * Float32.ofNat count then .shuffle else .rejection

/-- `count` distinct places of a list of length `size`. -/
def distinctPlaces (size count : Nat) : Attempt σ (List Nat) :=
  if size < count then
    throw (.tooFewPlaces size count)
  else
    match Method.of size count with
    | .floyd => Draw.attempt (floyd [] (size - count) count)
    | .shuffle => Draw.attempt do
      let cells ← shuffle (Array.range size) 0 count
      pure (cells.toList.take count)
    | .rejection => reject (if size < Width.w32.values then .w32 else .w64) size [] count

end

end SyntheticLoad.Random
