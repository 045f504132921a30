import SyntheticLoad.Field.Draw
import SyntheticLoad.Random.Keystream
import SyntheticLoad.Record.Envelope
import SyntheticLoad.Shape.Catalog

/-!
# The generator

A generator is a place in the keystream of a seed and a clock. It draws records
of shapes; the clock only enters the recent instants. Each unit of a run has a
generator of its own, whose seed is that of the run moved on by the number of the
unit (`unitSeed`), so what a unit sends does not hang on the other units.
-/

namespace SyntheticLoad

open SyntheticLoad.Random Time

/-- How far apart the seeds of neighbouring units are: an odd number, so no two
    units of a run share a seed. -/
def seedStride : UInt64 := 0x9E3779B97F4A7C15

/-- The seed of a unit of a run. -/
def unitSeed (seed index : UInt64) : UInt64 := seed + index * seedStride

section

variable {σ : Type} [WordSource σ]

/-- A record of a shape. -/
def Shape.draw (now : Instant) (shape : Shape) : Attempt σ Record :=
  drawRecord now shape.fields

/-- A shape that a selector gives, and a record of it. -/
def Selector.draw (now : Instant) (selector : Selector) : Attempt σ (Shape × Record) := do
  let shape ← Draw.attempt selector.resolve
  let record ← shape.draw now
  pure (shape, record)

/-- An envelope with a record of a shape that a selector gives, under its name. -/
def Selector.drawEnvelope (now : Instant) (selector : Selector) : Attempt σ Envelope := do
  let (shape, record) ← selector.draw now
  pure ⟨shape.name, record⟩

end

/-- A generator of records. -/
structure Generator where
  /-- Where its random words come from. -/
  words : Keystream
  /-- What its clock shows. -/
  now : Instant
  deriving Repr

namespace Generator

/-- The generator of a seed. -/
def ofSeed (seed : UInt64) (now : Instant) : Generator := ⟨.ofSeed seed, now⟩

/-- The generator of a unit of a run. -/
def forUnit (seed index : UInt64) (now : Instant) : Generator :=
  .ofSeed (unitSeed seed index) now

/-- The same generator with another clock. -/
def withClock (g : Generator) (now : Instant) : Generator := { g with now := now }

/-- Makes an attempt with the generator's words and clock. -/
def perform {α : Type} (g : Generator) (attempt : Instant → Attempt Keystream α) :
    Except Fault (α × Generator) :=
  (attempt g.now).run g.words |>.map fun (a, words) => (a, { g with words := words })

/-- A record of a shape, and the generator after it. -/
def generate (g : Generator) (shape : Shape) : Except Fault (Record × Generator) :=
  g.perform fun now => shape.draw now

/-- A shape and its record, and the generator after it. -/
def generateSelected (g : Generator) (selector : Selector) :
    Except Fault ((Shape × Record) × Generator) :=
  g.perform fun now => selector.draw now

/-- An envelope, and the generator after it. -/
def envelope (g : Generator) (selector : Selector) : Except Fault (Envelope × Generator) :=
  g.perform fun now => selector.drawEnvelope now

end Generator

end SyntheticLoad
