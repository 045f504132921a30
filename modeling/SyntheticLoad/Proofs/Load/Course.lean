import Mathlib.Data.List.Induction
import SyntheticLoad.Load.Run
import SyntheticLoad.Proofs.Shape.Totality

/-!
# Courses of a load run

A course of a load run is what can be seen of it from outside: which unit is started,
which one hands which envelope over and when, how its call ends, and what is recorded
of it (`Happening`). The pool says what may happen next (`Pool.step`), and nothing else
does: a unit may take any time before its call, the call may end in any way at any
time, and any ended unit may be the next one to be recorded (`Course`). The endings
stand for everything a sender can do, the order for everything a schedule can.

* Every sequence of events that is possible in the pool belongs to a course
  (`exists_course_of_reaches`), since every unit has an envelope whenever it is asked
  for one (`exists_unitEnvelope`).
* `Takes` lists the four things that can happen, with the pool after each of them.
  All that is proved about courses goes through it (`Course.induct`).
-/

namespace SyntheticLoad

open SyntheticLoad.Random Time

/-- Every unit of a run has an envelope, whatever its number, the seed and the clock. -/
theorem exists_unitEnvelope (selector : Selector) (seed : UInt64) (unit : Nat) (now : Instant) :
    ∃ e, unitEnvelope selector seed unit now = .ok e := by
  obtain ⟨e, g', he⟩ :=
    (Generator.forUnit seed (UInt64.ofNat unit) now).exists_envelope selector
  refine ⟨e, ?_⟩
  rw [unitEnvelope, he]
  rfl

/-! ### Histories -/

/-- An envelope handed over. -/
structure Call where
  /-- The unit that hands it over. -/
  unit : Nat
  /-- The time since the start of the run. -/
  time : Span
  envelope : Envelope

/-- What happens in a load run. -/
inductive Happening
  /-- A unit starts. -/
  | spawned (unit : Nat)
  /-- A unit hands its envelope over. -/
  | sent (call : Call)
  /-- The call of a unit ends. -/
  | ended (unit : Nat) (ending : Ending)
  /-- The outcome of a unit is recorded. -/
  | recorded (unit : Nat) (outcome : Outcome)

/-- What has happened, in order. -/
abbrev History := List Happening

namespace Happening

/-- The event of the pool. -/
def event : Happening → PoolEvent
  | spawned _ => .start
  | sent call => .call call.unit
  | ended unit ending => .finish unit ending
  | recorded unit _ => .record unit

@[simp]
def spawned? : Happening → Option Nat
  | spawned unit => some unit
  | _ => none

@[simp]
def sent? : Happening → Option Call
  | sent call => some call
  | _ => none

@[simp]
def ended? : Happening → Option (Nat × Ending)
  | ended unit ending => some (unit, ending)
  | _ => none

@[simp]
def recorded? : Happening → Option (Nat × Outcome)
  | recorded unit outcome => some (unit, outcome)
  | _ => none

end Happening

namespace History

/-- The units that were started, in order. -/
def starts (hs : History) : List Nat := hs.filterMap Happening.spawned?

/-- The calls that were made, in order. -/
def calls (hs : History) : List Call := hs.filterMap Happening.sent?

/-- The units whose calls ended and how they did, in order. -/
def endings (hs : History) : List (Nat × Ending) := hs.filterMap Happening.ended?

/-- The units that were recorded and what was recorded of them, in order. -/
def records (hs : History) : List (Nat × Outcome) := hs.filterMap Happening.recorded?

section

variable (hs : History) (h : Happening)

@[simp] theorem starts_concat : (hs ++ [h]).starts = hs.starts ++ h.spawned?.toList := by
  rw [starts, List.filterMap_append]
  cases h <;> rfl

@[simp] theorem calls_concat : (hs ++ [h]).calls = hs.calls ++ h.sent?.toList := by
  rw [calls, List.filterMap_append]
  cases h <;> rfl

@[simp] theorem endings_concat : (hs ++ [h]).endings = hs.endings ++ h.ended?.toList := by
  rw [endings, List.filterMap_append]
  cases h <;> rfl

@[simp] theorem records_concat : (hs ++ [h]).records = hs.records ++ h.recorded?.toList := by
  rw [records, List.filterMap_append]
  cases h <;> rfl

theorem starts_append (hs' : History) : (hs ++ hs').starts = hs.starts ++ hs'.starts :=
  List.filterMap_append

theorem records_append (hs' : History) : (hs ++ hs').records = hs.records ++ hs'.records :=
  List.filterMap_append

/-- Everything that happened is of one of the four sorts. -/
theorem length_eq : hs.length =
    hs.starts.length + hs.calls.length + hs.endings.length + hs.records.length := by
  induction hs using List.reverseRecOn with
  | nil => rfl
  | append_singleton hs h ih =>
    rw [List.length_append, ih]
    cases h <;> simp <;> omega

end

end History

/-! ### What may happen -/

section

variable (plan : LoadPlan) (seed : UInt64) (clock : Span → Instant)

/-- What can be seen of an event agrees with the pool and the clock: a unit is the next one,
    an envelope is the one that the unit has then, and an outcome is that of its ending. -/
def Happening.Fits (p : Pool) : Happening → Prop
  | spawned unit => unit = p.next
  | sent call => unitEnvelope plan.selector seed call.unit (clock call.time) = .ok call.envelope
  | ended _ _ => True
  | recorded unit outcome =>
    ∃ ending, p.ended.lookup unit = some ending ∧ outcome = ending.outcome unit

/-- The histories of a load run, each with the pool at its end. -/
inductive Course : History → Pool → Prop
  | start : Course [] (.fresh plan (clock ⟨0⟩))
  | step {hs : History} {p q : Pool} {h : Happening} :
    Course hs p → h.Fits plan seed clock p → p.step plan h.event = some q → Course (hs ++ [h]) q

/-- The four things that can happen, and the pool after each of them. -/
inductive Takes (p : Pool) : Happening → Pool → Prop
  | spawn : p.canStart plan →
    Takes p (.spawned p.next) { p with next := p.next + 1, started := p.started ++ [p.next] }
  | send {call : Call} : call.unit ∈ p.started →
    unitEnvelope plan.selector seed call.unit (clock call.time) = .ok call.envelope →
    Takes p (.sent call)
      { p with started := p.started.erase call.unit, sending := p.sending ++ [call.unit] }
  | finish {unit : Nat} {ending : Ending} : unit ∈ p.sending →
    Takes p (.ended unit ending)
      { p with sending := p.sending.erase unit, ended := p.ended ++ [(unit, ending)] }
  | record {unit : Nat} {ending : Ending} : ¬p.canStart plan →
    p.ended.lookup unit = some ending →
    Takes p (.recorded unit (ending.outcome unit))
      { p with
        ended := p.ended.erase (unit, ending)
        summary := p.summary.record (ending.outcome unit) }

end

section

variable {plan : LoadPlan} {seed : UInt64} {clock : Span → Instant}

/-- What may happen in the pool is one of the four. -/
theorem takes_of_step {p q : Pool} {h : Happening} (hfit : h.Fits plan seed clock p)
    (hstep : p.step plan h.event = some q) : Takes plan seed clock p h q := by
  cases h with
  | spawned unit =>
    obtain rfl : unit = p.next := hfit
    simp only [Happening.event, Pool.step] at hstep
    split at hstep
    · next hcan =>
      cases hstep
      exact .spawn hcan
    · cases hstep
  | sent call =>
    simp only [Happening.event, Pool.step] at hstep
    split at hstep
    · next hmem =>
      cases hstep
      exact .send hmem hfit
    · cases hstep
  | ended unit ending =>
    simp only [Happening.event, Pool.step] at hstep
    split at hstep
    · next hmem =>
      cases hstep
      exact .finish hmem
    · cases hstep
  | recorded unit outcome =>
    obtain ⟨ending, hlook, rfl⟩ := hfit
    simp only [Happening.event, Pool.step, hlook] at hstep
    split at hstep
    · cases hstep
    · next hcan =>
      cases hstep
      exact .record hcan hlook

/-- The four things do happen in the pool. -/
theorem Takes.step {p q : Pool} {h : Happening} (ht : Takes plan seed clock p h q) :
    h.Fits plan seed clock p ∧ p.step plan h.event = some q := by
  cases ht with
  | spawn hcan => exact ⟨rfl, if_pos hcan⟩
  | send hmem henv => exact ⟨henv, if_pos hmem⟩
  | finish hmem => exact ⟨trivial, if_pos hmem⟩
  | record hcan hlook =>
    refine ⟨⟨_, hlook, rfl⟩, ?_⟩
    simp only [Happening.event, Pool.step, hlook]
    exact if_neg hcan

/-- Two runs of the pool in a row. -/
theorem Pool.Reaches.append {p q r : Pool} {es es' : List PoolEvent}
    (h : Pool.Reaches plan p es q) (h' : Pool.Reaches plan q es' r) :
    Pool.Reaches plan p (es ++ es') r := by
  induction h with
  | nil p => exact h'
  | cons hstep _ ih => exact .cons hstep (ih h')

namespace Course

/-- A course goes on with any of the four things. -/
theorem takes {hs : History} {p q : Pool} {h : Happening} (hc : Course plan seed clock hs p)
    (ht : Takes plan seed clock p h q) : Course plan seed clock (hs ++ [h]) q :=
  .step hc ht.step.1 ht.step.2

/-- What holds at the start and is kept by each of the four things holds in every course. -/
theorem induct {motive : History → Pool → Prop}
    (start : motive [] (.fresh plan (clock ⟨0⟩)))
    (takes : ∀ hs p h q, Course plan seed clock hs p → Takes plan seed clock p h q →
      motive hs p → motive (hs ++ [h]) q)
    {hs : History} {p : Pool} (hc : Course plan seed clock hs p) : motive hs p := by
  induction hc with
  | start => exact start
  | step hc hfit hstep ih => exact takes _ _ _ _ hc (takes_of_step hfit hstep) ih

/-- The last thing that happened, and the course before it. -/
theorem last {hs : History} {h : Happening} {q : Pool}
    (hc : Course plan seed clock (hs ++ [h]) q) :
    ∃ p, Course plan seed clock hs p ∧ Takes plan seed clock p h q := by
  generalize hall : hs ++ [h] = all at hc
  cases hc with
  | start => exact absurd hall (List.concat_ne_nil h hs)
  | step hc hfit hstep =>
    obtain ⟨rfl, heq⟩ := List.append_inj' hall rfl
    cases heq
    exact ⟨_, hc, takes_of_step hfit hstep⟩

/-- What has happened up to some time is a course too. -/
theorem upTo {hs hs' : History} {r : Pool} (hc : Course plan seed clock (hs ++ hs') r) :
    ∃ p, Course plan seed clock hs p := by
  induction hs' using List.reverseRecOn generalizing r with
  | nil => exact ⟨r, by rwa [List.append_nil] at hc⟩
  | append_singleton hs' h ih =>
    rw [← List.append_assoc] at hc
    obtain ⟨p, hp, -⟩ := hc.last
    exact ih hp

/-- A course at the time when something happens in it. -/
theorem split {hs hs' : History} {h : Happening} {r : Pool}
    (hc : Course plan seed clock (hs ++ h :: hs') r) :
    ∃ p q, Course plan seed clock hs p ∧ Takes plan seed clock p h q := by
  rw [← List.singleton_append, ← List.append_assoc] at hc
  obtain ⟨q, hq⟩ := hc.upTo
  obtain ⟨p, hp, ht⟩ := hq.last
  exact ⟨p, q, hp, ht⟩

/-- The events of a course are a run of the pool. -/
theorem reaches {hs : History} {p : Pool} (hc : Course plan seed clock hs p) :
    Pool.Reaches plan (.fresh plan (clock ⟨0⟩)) (hs.map Happening.event) p := by
  induction hc with
  | start => exact .nil _
  | step _ _ hstep ih =>
    rw [List.map_append]
    exact ih.append (.cons hstep (.nil _))

end Course

/-- Some happening shows an event that may happen in the pool, whenever it does. -/
theorem exists_fits (seed : UInt64) (clock : Span → Instant) {p q : Pool} {e : PoolEvent}
    (hstep : p.step plan e = some q) (time : Span) :
    ∃ h : Happening, h.event = e ∧ h.Fits plan seed clock p := by
  cases e with
  | start => exact ⟨.spawned p.next, rfl, rfl⟩
  | call unit =>
    obtain ⟨envelope, henv⟩ := exists_unitEnvelope plan.selector seed unit (clock time)
    exact ⟨.sent ⟨unit, time, envelope⟩, rfl, henv⟩
  | finish unit ending => exact ⟨.ended unit ending, rfl, trivial⟩
  | record unit =>
    simp only [Pool.step] at hstep
    cases hlook : p.ended.lookup unit with
    | none => simp [hlook] at hstep
    | some ending => exact ⟨.recorded unit (ending.outcome unit), rfl, ending, hlook, rfl⟩

/-- Every run of the pool is what happens in some course. -/
theorem exists_course_of_reaches {p : Pool} {es : List PoolEvent}
    (h : Pool.Reaches plan (.fresh plan (clock ⟨0⟩)) es p) :
    ∃ hs, Course plan seed clock hs p ∧ hs.map Happening.event = es := by
  -- The induction is on the run from any pool that a course has led to.
  suffices hgen : ∀ {q r es}, Pool.Reaches plan q es r → ∀ {hs}, Course plan seed clock hs q →
      ∃ hs', Course plan seed clock (hs ++ hs') r ∧ hs'.map Happening.event = es by
    obtain ⟨hs, hc, hes⟩ := hgen h .start
    exact ⟨hs, hc, hes⟩
  intro q r es h
  induction h with
  | nil q => exact fun hc => ⟨[], by rwa [List.append_nil], rfl⟩
  | cons hstep _ ih =>
    intro hs hc
    obtain ⟨h, rfl, hfit⟩ := exists_fits seed clock hstep ⟨0⟩
    obtain ⟨hs', hc', hes⟩ := ih (.step hc hfit hstep)
    refine ⟨h :: hs', ?_, by rw [List.map_cons, hes]⟩
    rwa [List.append_assoc, List.singleton_append] at hc'

end

end SyntheticLoad
