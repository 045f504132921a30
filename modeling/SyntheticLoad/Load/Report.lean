import SyntheticLoad.Decimal.Fixed
import SyntheticLoad.Load.Pool

/-!
# What a load run reports

A run reports its start and its end. In between it reports each unit that was
answered, each that broke down, and its progress after every so many records.
-/

namespace SyntheticLoad

open Text

namespace LoadPlan

/-- The notice of a start. -/
def startNotice (plan : LoadPlan) (seed : UInt64) : Notice :=
  ⟨.info, "Starting load run: " ++ numeral plan.total.toNat ++ " requests with " ++
    numeral plan.concurrency ++ " workers (shape: " ++ plan.selector.name ++ ", seed: " ++
    numeral seed.toNat ++ ")"⟩

/-- The notice of a unit that was answered. -/
def unitNotice (unit : Nat) (schema : String) (outcome : Outcome) : Notice :=
  ⟨.debug, "Unit " ++ numeral unit ++ " (" ++ schema ++ "): " ++ outcome.text⟩

/-- The notice of a unit that broke down. -/
def breakdownNotices (unit : Nat) : Ending → List Notice
  | .answered _ => []
  | .broken message =>
    [⟨.warn, "Dispatch unit did not complete: " ++ breakdownText unit message⟩]

/-- The notice of progress, if one is due after a record. -/
def progressNotices (plan : LoadPlan) (s : Summary) : List Notice :=
  if plan.progressInterval ≠ 0 ∧ s.completed % plan.progressInterval = 0 then
    [⟨.info, "Progress: " ++ numeral s.completed.toNat ++ "/" ++ numeral plan.total.toNat ++
      " | Success: " ++ numeral s.successes.toNat ++ " | Errors: " ++ numeral s.errors.toNat⟩]
  else
    []

/-- The notice of an end. -/
def endNotice (s : Summary) : Notice :=
  ⟨.info, "Completed! Total: " ++ numeral s.completed.toNat ++ " | Success: " ++
    numeral s.successes.toNat ++ " | Errors: " ++ numeral s.errors.toNat ++ " (" ++
    Decimal.fixed 1 s.requestsPerSecond ++ " req/s)"⟩

end LoadPlan

end SyntheticLoad
