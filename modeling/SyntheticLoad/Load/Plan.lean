import SyntheticLoad.Shape.Basic

/-!
# Load plans

What a load run is to do: how many units there are, how many of them may be under
way at the same time, of which shape their records are, from which seed, and after
how many units progress is reported. A run without workers is refused.
-/

namespace SyntheticLoad

/-- What a load run is to do. -/
structure LoadPlan where
  /-- The number of units. -/
  total : UInt64
  /-- How many units may be under way at the same time. -/
  concurrency : Nat
  /-- The shape of the records. -/
  selector : Selector
  /-- The seed of the run; one is drawn if there is none. -/
  seed : Option UInt64
  /-- After how many units progress is reported; never if it is zero. -/
  progressInterval : UInt64
  deriving DecidableEq, Repr

namespace LoadPlan

/-- How often progress is reported unless something else is asked for. -/
def defaultInterval : UInt64 := 1000

/-- A plan with nothing but the essentials. -/
def basic (total : UInt64) (concurrency : Nat) (selector : Selector) : LoadPlan where
  total := total
  concurrency := concurrency
  selector := selector
  seed := none
  progressInterval := defaultInterval

/-- The plan with a seed. -/
def withSeed (p : LoadPlan) (seed : UInt64) : LoadPlan := { p with seed := some seed }

/-- The plan with another interval of progress. -/
def withInterval (p : LoadPlan) (interval : UInt64) : LoadPlan :=
  { p with progressInterval := interval }

end LoadPlan

/-- Why a load run does not start. -/
inductive LoadError
  /-- No unit could ever be under way. -/
  | noWorkers
  deriving DecidableEq, Repr

/-- The wording of a refusal. -/
def LoadError.message : LoadError → String
  | .noWorkers => "Concurrency must be at least 1"

end SyntheticLoad
