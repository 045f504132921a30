import SyntheticLoad.Random.Source

/-!
# Scripted words

A source that reads a fixed list of 64-bit words, from the start again once it
has run out. A 32-bit word is the low half of the next word, and sixteen bytes
are two words. Scripts make any draw come out as one likes, so they are what a
statement "some source makes this draw return `v`" is proved with.
-/

namespace SyntheticLoad.Random

/-- A list of words that is read in a circle. -/
structure Script where
  /-- The words of one turn. -/
  words : List UInt64
  /-- The words still to be read in this turn. -/
  rest : List UInt64
  deriving DecidableEq, Repr

namespace Script

/-- The script at its first word. -/
def ofList (words : List UInt64) : Script := ⟨words, words⟩

/-- The next word. An empty script reads as zeros. -/
def next (s : Script) : UInt64 × Script :=
  match s.rest with
  | w :: rest => (w, { s with rest := rest })
  | [] =>
    match s.words with
    | w :: rest => (w, { s with rest := rest })
    | [] => (0, s)

/-- The bytes of a 64-bit word, least significant first. -/
def bytesOfLong (w : UInt64) : Vector UInt8 8 :=
  bytesOfWord w.toUInt32 ++ bytesOfWord (w >>> 32).toUInt32

instance : WordSource Script where
  next32 s :=
    let (w, s) := s.next
    (w.toUInt32, s)
  next64 := next
  next16Bytes s :=
    let (a, s) := s.next
    let (b, s) := s.next
    (bytesOfLong a ++ bytesOfLong b, s)

end Script

end SyntheticLoad.Random
