import SyntheticLoad.Record.Generator
import SyntheticLoad.Time.Span

/-!
# Replay plans

A replay sends one envelope again and again. The plan says how often, how long the
pauses in between are, and how the envelope is made: of which shape, from which
seed, and under which name if not that of its shape.
-/

namespace SyntheticLoad

open SyntheticLoad.Random Time

/-- What a replay is to do. -/
structure ReplayPlan where
  /-- How often the envelope is sent. -/
  count : UInt64
  /-- The pause between two sends. -/
  pause : Span
  /-- The shape of the record. -/
  selector : Selector
  /-- The seed of the record; one is drawn if there is none. -/
  seed : Option UInt64
  /-- The name of the envelope's schema, in the place of that of the shape. -/
  schemaName : Option String
  deriving DecidableEq, Repr

namespace ReplayPlan

/-- The pause unless something else is asked for. -/
def defaultPause : Span := .ofMillis 100

/-- A plan with nothing but the essentials. -/
def basic (count : UInt64) (selector : Selector) : ReplayPlan where
  count := count
  pause := defaultPause
  selector := selector
  seed := none
  schemaName := none

/-- The envelope with the name that the plan gives it. -/
def rename (p : ReplayPlan) (e : Envelope) : Envelope :=
  match p.schemaName with
  | none => e
  | some name => ⟨name, e.data⟩

/-- The envelope that is sent. -/
def payload (p : ReplayPlan) (seed : UInt64) (now : Instant) : Except Fault Envelope :=
  (Generator.ofSeed seed now).envelope p.selector |>.map fun (e, _) => p.rename e

end ReplayPlan

end SyntheticLoad
