import SyntheticLoad.Random.ChaCha
import SyntheticLoad.Random.Source

/-!
# The keystream of a seed

A seed of 64 bits is stretched to a key of eight words (`keyOfSeed`), and the
words of the key's successive ChaCha blocks form one stream. A 32-bit word is
the next word of the stream, a 64-bit word takes two of them with the low half
first, and sixteen bytes take four. Nothing is aligned and nothing is skipped, so
what a run of draws reads is a contiguous part of the stream.
-/

namespace SyntheticLoad.Random

open ChaCha

/-- One step of the linear congruence that stretches a seed. -/
def stretchStep (s : UInt64) : UInt64 :=
  s * 6364136223846793005 + 11634580027462260723

/-- The word read off a state of the congruence: its high bits folded onto the
    low ones, and turned right by the number in the top five bits. -/
def stretchWord (s : UInt64) : UInt32 :=
  let x := (((s >>> 18) ^^^ s) >>> 27).toUInt32
  let turn := (s >>> 59).toUInt32
  (x >>> turn) ||| (x <<< ((32 - turn) % 32))

/-- The key of a seed: the words of the first eight steps. -/
def keyOfSeed (seed : UInt64) : Key :=
  let s0 := stretchStep seed
  let s1 := stretchStep s0
  let s2 := stretchStep s1
  let s3 := stretchStep s2
  let s4 := stretchStep s3
  let s5 := stretchStep s4
  let s6 := stretchStep s5
  let s7 := stretchStep s6
  ⟨stretchWord s0, stretchWord s1, stretchWord s2, stretchWord s3,
    stretchWord s4, stretchWord s5, stretchWord s6, stretchWord s7⟩

/-- A place in the stream of words under a key. -/
structure Keystream where
  /-- The key. -/
  key : Key
  /-- The number of the next block to compute. -/
  counter : UInt64
  /-- The words of the current block that are not read yet. -/
  pending : List UInt32
  deriving DecidableEq, Repr

namespace Keystream

/-- The start of the stream of a seed. -/
def ofSeed (seed : UInt64) : Keystream := ⟨keyOfSeed seed, 0, []⟩

/-- The next word of the stream. -/
def next (s : Keystream) : UInt32 × Keystream :=
  match s.pending with
  | w :: rest => (w, { s with pending := rest })
  | [] =>
    match blockWords s.key s.counter with
    | w :: rest => (w, { s with counter := s.counter + 1, pending := rest })
    | [] => (0, { s with counter := s.counter + 1 })

/-- The next word of 64 bits, low half first. -/
def nextLong (s : Keystream) : UInt64 × Keystream :=
  let (low, s) := s.next
  let (high, s) := s.next
  (joinWords low high, s)

instance : WordSource Keystream where
  next32 := next
  next64 := nextLong
  next16Bytes s :=
    let (a, s) := s.next
    let (b, s) := s.next
    let (c, s) := s.next
    let (d, s) := s.next
    (bytesOfWord a ++ bytesOfWord b ++ bytesOfWord c ++ bytesOfWord d, s)

end Keystream

end SyntheticLoad.Random
