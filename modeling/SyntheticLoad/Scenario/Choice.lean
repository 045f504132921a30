import SyntheticLoad.Random.Uniform
import SyntheticLoad.Scenario.Plan

/-!
# What users do at random

A user picks one of two tasks, by their weights, and rests for a while in whole
milliseconds. When there is no room between the shortest and the longest rest, the
rest is the shortest one and nothing is drawn.
-/

namespace SyntheticLoad.Scenario

open SyntheticLoad.Random Time

/-- A task of a user. -/
inductive Task
  /-- Look at one's projects. -/
  | browse
  /-- Look after the service. -/
  | checkHealth
  deriving DecidableEq, Repr

namespace Task

/-- All tasks. -/
def all : List Task := [.browse, .checkHealth]

/-- How often a task is picked, in proportion to the others. -/
def weight : Task → Nat
  | browse => 3
  | checkHealth => 1

/-- The weights of some tasks together. -/
def totalWeight : List Task → Nat
  | [] => 0
  | task :: tasks => task.weight + totalWeight tasks

/-- The task that a number below the total weight falls to. -/
def atWeight : List Task → Nat → Task
  | [], _ => .browse
  | task :: tasks, n => if n < task.weight then task else atWeight tasks (n - task.weight)

/-- A task by weight. -/
def draw {σ : Type} [WordSource σ] : Draw σ Task := do
  let n ← offset .w32 (totalWeight all)
  pure (atWeight all n)

end Task

/-- A rest between the shortest and the longest one. -/
def drawRest {σ : Type} [WordSource σ] (shortest longest : Span) : Draw σ Span :=
  if longest.nanos ≤ shortest.nanos then
    pure shortest
  else do
    let low := shortest.wholeMillis
    let high := longest.wholeMillis
    let k ← offset .w128 (high - low + 1)
    pure (.ofMillis (UInt64.ofNat (low + k)).toNat)

end SyntheticLoad.Scenario
