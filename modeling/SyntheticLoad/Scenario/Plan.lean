import SyntheticLoad.Time.Span

/-!
# Scenario plans

What a scenario is to do: how many users there are at one service, how many tasks
each of them performs, and how long they rest between two tasks.
-/

namespace SyntheticLoad

open Time

/-- What a scenario is to do. -/
structure ScenarioPlan where
  /-- The address of the service. -/
  address : String
  /-- The number of users. -/
  users : Nat
  /-- The number of tasks of each user. -/
  iterations : UInt64
  /-- The shortest rest. -/
  shortest : Span
  /-- The longest rest. -/
  longest : Span
  /-- The password of every user. -/
  password : String
  deriving DecidableEq, Repr

/-- A plan with nothing but the address. -/
def ScenarioPlan.basic (address : String) : ScenarioPlan where
  address := address
  users := 10
  iterations := 20
  shortest := .ofMillis 1000
  longest := .ofMillis 3000
  password := "password123"

end SyntheticLoad
