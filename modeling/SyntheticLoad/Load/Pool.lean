import SyntheticLoad.Delivery.Sender
import SyntheticLoad.Load.Plan
import SyntheticLoad.Summary.Basic
import SyntheticLoad.Text.Quoted

/-!
# The pool of a load run

The pool holds the units that are under way. A unit is started, hands its envelope
over, comes to an end, and is recorded; with its record it leaves the pool. These
are the events of a run (`PoolEvent`), and `Pool.step` says what an event does and
when it may happen:

* a unit is *started* as long as there is room and a unit is left, the units in the
  order of their numbers;
* a started unit makes its *call* at any time, and a call *finishes* at any time;
* an ended unit is *recorded* only when no unit can be started.

So the pool is as full as it can be whenever a record is due. A run is any sequence
of events that may happen one after the other (`Pool.Reaches`).
-/

namespace SyntheticLoad

open Text

/-- The units under way, and what has been counted so far. -/
structure Pool where
  /-- The number of the next unit to start. -/
  next : Nat
  /-- The units that have started, and have made no call yet. -/
  started : List Nat
  /-- The units whose calls are open. -/
  sending : List Nat
  /-- The units that have ended, and how, in the order of their ends. -/
  ended : List (Nat × Ending)
  /-- The records so far. -/
  summary : Summary
  deriving DecidableEq, Repr

/-- What happens in a pool. -/
inductive PoolEvent
  /-- The next unit starts. -/
  | start
  /-- A unit makes its call. -/
  | call (unit : Nat)
  /-- The call of a unit ends. -/
  | finish (unit : Nat) (ending : Ending)
  /-- The end of a unit is recorded. -/
  | record (unit : Nat)
  deriving DecidableEq, Repr

/-- How a unit that broke down is reported. -/
def breakdownText (unit : Nat) (message : String) : String :=
  "task " ++ String.ofList (digits unit) ++ " panicked with message " ++
    String.ofList (quoted message.toList)

/-- What is recorded of the end of a unit. A breakdown counts as a missing answer. -/
def Ending.outcome (unit : Nat) : Ending → Outcome
  | .answered o => o
  | .broken message => .error ("unit aborted: " ++ breakdownText unit message)

@[simp] theorem Ending.outcome_answered (unit : Nat) (o : Outcome) :
    (answered o).outcome unit = o := rfl

@[simp] theorem Ending.outcome_broken (unit : Nat) (message : String) :
    (broken message).outcome unit =
      .error ("unit aborted: " ++ breakdownText unit message) := rfl

namespace Pool

/-- The pool of a run that starts now. -/
def fresh (plan : LoadPlan) (now : Time.Instant) : Pool :=
  ⟨0, [], [], [], .start plan.total now⟩

/-- How many units are in the pool. -/
def size (p : Pool) : Nat := p.started.length + p.sending.length + p.ended.length

/-- Whether there is room, and a unit left to start. -/
def canStart (plan : LoadPlan) (p : Pool) : Bool :=
  p.size < plan.concurrency && p.next < plan.total.toNat

/-- The pool after an event, if the event may happen. -/
def step (plan : LoadPlan) (p : Pool) : PoolEvent → Option Pool
  | .start =>
    if p.canStart plan then
      some { p with next := p.next + 1, started := p.started ++ [p.next] }
    else
      none
  | .call unit =>
    if unit ∈ p.started then
      some { p with started := p.started.erase unit, sending := p.sending ++ [unit] }
    else
      none
  | .finish unit ending =>
    if unit ∈ p.sending then
      some { p with sending := p.sending.erase unit, ended := p.ended ++ [(unit, ending)] }
    else
      none
  | .record unit =>
    if p.canStart plan then
      none
    else
      match p.ended.lookup unit with
      | none => none
      | some ending =>
        some { p with
          ended := p.ended.erase (unit, ending)
          summary := p.summary.record (ending.outcome unit) }

/-- The events `es` may happen one after the other in `p`, and lead to `q`. -/
inductive Reaches (plan : LoadPlan) : Pool → List PoolEvent → Pool → Prop
  | nil (p : Pool) : Reaches plan p [] p
  | cons {p q r : Pool} {e : PoolEvent} {es : List PoolEvent} :
    p.step plan e = some q → Reaches plan q es r → Reaches plan p (e :: es) r

/-- Whether every unit has been recorded. -/
def isDone (plan : LoadPlan) (p : Pool) : Bool := p.summary.completed == plan.total

end Pool

end SyntheticLoad
