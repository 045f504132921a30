import SyntheticLoad.Random.Source

/-!
# Uniform numbers

A uniform number below `n` is the high half of the product of `n` and a random
word (`offset`). The low half tells how far the word was from the next number;
when the bias of a single word could matter, a second word continues the low
half, and a carry out of it adds one. No draw is ever rejected, so at most two
words are read, and the result is below `n` for every source (`offset`).

The ranges are inclusive at both ends. The width of the word depends on the kind
of number: 64 bits for integers, 32 bits for sizes and places that fit into 32
bits, and 128 bits for spans of time.
-/

namespace SyntheticLoad.Random

/-- How many bits a raw draw has. -/
inductive Width
  | w32
  | w64
  | w128
  deriving DecidableEq, Repr

/-- The number of values that a raw draw can have. -/
def Width.values : Width → Nat
  | .w32 => 4294967296
  | .w64 => 18446744073709551616
  | .w128 => 340282366920938463463374607431768211456

section

variable {σ : Type} [WordSource σ]

/-- A raw draw as a number. A draw of 128 bits takes two words, low half first. -/
def raw : Width → Draw σ Nat
  | .w32 => do
    let w ← word32
    pure w.toNat
  | .w64 => do
    let w ← word64
    pure w.toNat
  | .w128 => do
    let low ← word64
    let high ← word64
    pure (low.toNat + Width.w64.values * high.toNat)

/-- A uniform number below `n`, for `n` at most the number of raw values. -/
def offset (w : Width) (n : Nat) : Draw σ Nat := do
  if n = w.values then
    raw w
  else
    let d ← raw w
    let high := d * n / w.values
    let low := d * n % w.values
    if w.values - n < low then
      let d' ← raw w
      if w.values ≤ low + d' * n / w.values then
        pure (high + 1)
      else
        pure high
    else
      pure high

/-- A uniform size between `low` and `high`, both included. -/
def sizeBetween (low high : Nat) : Draw σ Nat := do
  let k ← offset (if high < Width.w32.values then .w32 else .w64) (high - low + 1)
  pure (low + k)

/-- A uniform place in a list of length `n + 1`. -/
def place (n : Nat) : Draw σ Nat := sizeBetween 0 n

/-- A uniform member of the list with first member `x` and the others `xs`. -/
def pick {α : Type} (x : α) (xs : List α) : Draw σ α := do
  let i ← place xs.length
  pure ((x :: xs).getD i x)

/-- The high half of the product of two words. -/
def mulHigh (a b : UInt64) : UInt64 := UInt64.ofNat (a.toNat * b.toNat / Width.w64.values)

/-- A uniform word below `n`, by the arithmetic of words. -/
def offsetWord (n : UInt64) : Draw σ UInt64 := do
  let d ← word64
  let high := mulHigh d n
  let low := d * n
  if -n < low then
    let d' ← word64
    if Width.w64.values ≤ low.toNat + (mulHigh d' n).toNat then
      pure (high + 1)
    else
      pure high
  else
    pure high

/-- A uniform integer between `low` and `high`, both included. The arithmetic is that
    of words, which wraps around: if the range is that of all integers, their number
    is zero, and a word is an integer as it stands. -/
def intBetween (low high : Int64) : Draw σ Int64 := do
  let n := (high - low + 1).toUInt64
  if n = 0 then
    let w ← word64
    pure w.toInt64
  else
    let k ← offsetWord n
    pure (low + k.toInt64)

/-- A fair coin: whether the next word is below half of its range. -/
def coin : Draw σ Bool := do
  let w ← word64
  pure (w < 0x8000000000000000)

/-- A uniform float in `[0, 1)`: 52 random bits after the point of a float in
    `[1, 2)`, less one. -/
def unitFloat : Draw σ Float := do
  let w ← word64
  pure (Float.ofBits ((w >>> 12) ||| 0x3FF0000000000000) - 1.0)

/-- A uniform float between `low` and `high`. It breaks off unless the bounds are
    in order and their span is finite. -/
def floatBetween (low high : Float) : Attempt σ Float := do
  let span := high - low
  if low ≤ high && span.isFinite then
    let u ← Draw.attempt unitFloat
    pure (u * span + low)
  else
    throw .unboundedRange

end

end SyntheticLoad.Random
