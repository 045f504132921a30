import SyntheticLoad.Scenario.Summary

/-!
# Scenarios

In a scenario the users take turns. In each turn one user does one thing, and any
user who has something left to do may be the next (`Crowd.turn`, `Crowd.Reaches`).

A timed scenario is one in which a user is next whose rest is over first, and of
several the one who has had the fewest turns. Its time stands still during a turn
and moves on to the end of a rest. A user has a turn for its registration, one for
its login, one for each task and one for each rest, so the number of turns of a
whole scenario is bounded.
-/

namespace SyntheticLoad

open Http SyntheticLoad.Random Text Time

namespace Scenario

/-- The users of a scenario and the network between them and the service. -/
structure Crowd (ν : Type) where
  users : List User
  network : ν
  deriving Repr

section

variable {ν : Type} (network : Network ν) (plan : ScenarioPlan)

/-- One user does the next thing. What comes of it is the turn, too. -/
def Crowd.turn (c : Crowd ν) (number : Nat) : Option (Crowd ν × User.Turn) := do
  let user ← c.users[number]?
  let exchange ← user.act plan
  let (turn, state) := exchange.run network c.network
  pure (⟨c.users.set number turn.user, state⟩, turn)

/-- The users `ns` may have turns one after the other in `c`, and that leads to `d`. -/
inductive Crowd.Reaches : Crowd ν → List Nat → Crowd ν → Prop
  | nil (c : Crowd ν) : Crowd.Reaches c [] c
  | cons {c d e : Crowd ν} {t : User.Turn} {n : Nat} {ns : List Nat} :
    c.turn network plan n = some (d, t) → Crowd.Reaches d ns e → Crowd.Reaches c (n :: ns) e

end

/-- Whether every user is done. -/
def Crowd.isDone {ν : Type} (c : Crowd ν) : Bool := c.users.all fun u => u.phase = .done

/-- The users of a scenario, one for each place in the list. -/
def Crowd.enter {ν : Type} (session : Session) (words : List Keystream) (state : ν) : Crowd ν :=
  ⟨words.map (User.enter session), state⟩

/-- When a user goes on, and how many turns it has had. -/
structure Slot where
  wake : Span
  turns : Nat
  deriving DecidableEq, Repr

/-- Whether the user of a slot comes before that of another. -/
def Slot.isBefore (a b : Slot) : Bool :=
  a.wake.nanos < b.wake.nanos || (a.wake.nanos == b.wake.nanos && a.turns < b.turns)

/-- A scenario under way. -/
structure TimedCrowd (ν : Type) where
  crowd : Crowd ν
  /-- The slots of the users, in the same order. -/
  slots : List Slot
  now : Span
  /-- What has been reported, the last notice first. -/
  notices : List Notice

/-- The user who is next, among those who are not done. -/
def nextUser : List User → List Slot → Option (Nat × Slot)
  | user :: users, slot :: slots =>
    let later := (nextUser users slots).map fun (number, slot) => (number + 1, slot)
    if user.phase = .done then
      later
    else
      match later with
      | some (number, other) => if other.isBefore slot then some (number, other) else some (0, slot)
      | none => some (0, slot)
  | _, _ => none

section

variable {ν : Type} (network : Network ν) (plan : ScenarioPlan)

/-- Lets the next user have a turn. -/
def TimedCrowd.advance (t : TimedCrowd ν) : Option (TimedCrowd ν) := do
  let (number, slot) ← nextUser t.crowd.users t.slots
  let (crowd, turn) ← t.crowd.turn network plan number
  let now : Span := ⟨max t.now.nanos slot.wake.nanos⟩
  let slot : Slot := ⟨⟨now.nanos + turn.delay.waited.nanos⟩, slot.turns + 1⟩
  pure ⟨crowd, t.slots.set number slot, now, turn.notices.reverse ++ t.notices⟩

/-- Lets users have turns until all are done, or the given number of turns is over. -/
def TimedCrowd.proceed : Nat → TimedCrowd ν → TimedCrowd ν
  | 0, t => t
  | n + 1, t =>
    match t.advance network plan with
    | none => t
    | some t => proceed n t

end

end Scenario

namespace ScenarioPlan

open Scenario

/-- The notice of a start. -/
def startNotice (p : ScenarioPlan) : Notice :=
  ⟨.info, "Starting session scenario: " ++ numeral p.users ++ " users x " ++
    numeral p.iterations.toNat ++ " tasks against " ++ p.address⟩

/-- The notice of an end. -/
def endNotice (s : ScenarioSummary) : Notice :=
  ⟨.info, "Scenario complete: browse ok " ++ numeral s.browseOk.toNat ++ " / failed " ++
    numeral s.browseFailed.toNat ++ ", registrations failed " ++
    numeral s.registrationsFailed.toNat ++ ", logins failed " ++ numeral s.loginsFailed.toNat ++
    ", aborted " ++ numeral s.usersAborted.toNat⟩

/-- More turns than a scenario can take. -/
def turnBound (p : ScenarioPlan) : Nat := p.users * (2 * p.iterations.toNat + 2)

/-- What is left of a scenario when it is over. -/
structure Result (ν : Type) where
  summary : ScenarioSummary
  network : ν
  /-- How long the scenario took. -/
  length : Span
  /-- What was reported, in order. -/
  notices : List Notice

/-- A whole scenario, with a place of a keystream for each user. -/
def run {ν : Type} (p : ScenarioPlan) (network : Network ν) (words : List Keystream)
    (state : ν) : Except TargetError (Result ν) := do
  let session ← Session.connect p.address
  let crowd := Crowd.enter session (words.take p.users) state
  let start : TimedCrowd ν :=
    ⟨crowd, crowd.users.map fun _ => ⟨⟨0⟩, 0⟩, ⟨0⟩, [p.startNotice]⟩
  let t := start.proceed network p p.turnBound
  let tallies := t.crowd.users.map User.tally
  let summary := { ScenarioSummary.ofTallies tallies with durationMs := t.now.millisWord }
  pure ⟨summary, t.crowd.network, t.now, (endNotice summary :: t.notices).reverse⟩

end ScenarioPlan

end SyntheticLoad
