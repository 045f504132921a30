/-!
# Sources of random words

Everything the generator draws comes from a source of random words. A source is
a state and three ways to advance it: by a 32-bit word, by a 64-bit word, and by
sixteen bytes (`WordSource`). How the three relate is the source's own business:
the keystream of a seeded run serves all three from one stream of 32-bit words
(`Keystream`), a script serves them from a list of 64-bit words (`Script`).

A draw (`Draw`) is a function of the state. It always returns, so what a draw
can give is a statement about every state of every source. A draw that may
break off is an `Attempt`; the causes are the constructors of `Fault`. One of the
causes is no event of a run: a draw that is made again until it gives something
(`Draw.retry`) may go on for ever, and then there is no result either.
-/

namespace SyntheticLoad.Random

/-- A source of random words. -/
class WordSource (σ : Type) where
  /-- The next 32-bit word. -/
  next32 : σ → UInt32 × σ
  /-- The next 64-bit word. -/
  next64 : σ → UInt64 × σ
  /-- The next sixteen bytes. -/
  next16Bytes : σ → Vector UInt8 16 × σ

/-- A draw: a value read off a source, and the source after it. -/
abbrev Draw (σ α : Type) := StateM σ α

/-- Why a draw breaks off. -/
inductive Fault
  /-- A range of floats has a bound that is no number, or a span that is not finite. -/
  | unboundedRange
  /-- A number is to be padded to more than the widest field there is. -/
  | fieldTooWide (width : Nat)
  /-- A range of sizes has nothing in it. -/
  | emptyRange (low high : Nat)
  /-- More distinct places are wanted than a list has. -/
  | tooFewPlaces (size count : Nat)
  /-- A list ends before a place of it that is looked at. -/
  | noSuchPlace (place : Nat)
  /-- Nothing that is drawn will do, and there is no end to it. -/
  | endless
  deriving DecidableEq, Repr

/-- The wording of a fault. -/
def Fault.message : Fault → String
  | .unboundedRange => "range of floats is not finite"
  | .fieldTooWide _ => "field is too wide"
  | .emptyRange _ _ => "range of sizes is empty"
  | .tooFewPlaces _ _ => "list has too few places"
  | .noSuchPlace _ => "list has no such place"
  | .endless => "draw never ends"

/-- A draw that may break off. -/
abbrev Attempt (σ α : Type) := StateT σ (Except Fault) α

/-- A draw that always returns, as an attempt. -/
def Draw.attempt {σ α : Type} (d : Draw σ α) : Attempt σ α :=
  fun s => .ok (d.run s)

/-- The results of `n` draws in a row, in the order drawn. -/
def Draw.times {σ α : Type} (d : Draw σ α) : Nat → Draw σ (List α)
  | 0 => pure []
  | n + 1 => do
    let x ← d
    let xs ← Draw.times d n
    pure (x :: xs)

/-- The first thing that a draw gives when it is made again and again, and the source
    after it. If it never gives anything, there is none. -/
def Draw.first {σ α : Type} (d : Draw σ (Option α)) (s : σ) : Option (α × σ) :=
  match d.run s with
  | (some a, s') => some (a, s')
  | (none, s') => d |>.first s'
partial_fixpoint

/-- A draw that is made again and again until it gives something. -/
def Draw.retry {σ α : Type} (d : Draw σ (Option α)) : Attempt σ α := fun s =>
  match d.first s with
  | some result => .ok result
  | none => .error .endless

section Words

variable {σ : Type} [WordSource σ]

/-- The next 32-bit word. -/
def word32 : Draw σ UInt32 := WordSource.next32

/-- The next 64-bit word. -/
def word64 : Draw σ UInt64 := WordSource.next64

/-- The next sixteen bytes. -/
def bytes16 : Draw σ (Vector UInt8 16) := WordSource.next16Bytes

end Words

/-- The bytes of a 32-bit word, least significant first. -/
def bytesOfWord (w : UInt32) : Vector UInt8 4 :=
  #v[w.toUInt8, (w >>> 8).toUInt8, (w >>> 16).toUInt8, (w >>> 24).toUInt8]

/-- Two 32-bit words as one of 64 bits, the first being the low half. -/
def joinWords (low high : UInt32) : UInt64 :=
  low.toUInt64 ||| (high.toUInt64 <<< 32)

end SyntheticLoad.Random
