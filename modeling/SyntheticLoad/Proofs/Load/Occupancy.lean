import SyntheticLoad.Delivery.Stub
import SyntheticLoad.Proofs.Load.TurnTaking

/-!
# The pool is bounded and never idle

The pool of a load run never holds more units than the plan allows, and when the keeper
waits, it holds as many as it can: as many as the plan allows, or all that are left. So
once a record has been made, the room that it gives is filled before the next one
(`Course.filled`), and a unit beyond the first ones is started after exactly so many
records as it takes for it to have room (`Course.records_at_spawn`).

A probe counts the calls that are open by what it is told of them. It has not seen more
at any time than the pool holds (`Course.probe`).
-/

namespace SyntheticLoad

open SyntheticLoad.Random Time

section

variable {plan : LoadPlan} {seed : UInt64} {clock : Span → Instant} {hs : History} {p : Pool}

/-! ### Room -/

namespace Course

/-- The room that the records have given is filled, up to that of the last one. -/
theorem filled (hc : Course plan seed clock hs p) (hpos : 0 < hs.records.length) :
    min plan.total.toNat (hs.records.length - 1 + plan.concurrency) ≤ p.next := by
  revert hpos
  refine hc.induct (motive := fun hs p => 0 < hs.records.length →
    min plan.total.toNat (hs.records.length - 1 + plan.concurrency) ≤ p.next)
    (fun h => absurd h (Nat.lt_irrefl 0)) ?_
  intro hs p h q hc ht ih hpos
  cases ht with
  | spawn hcan =>
    -- One more unit has been started, and the records are the same.
    have hle := ih (by simpa using hpos)
    simp only [History.records_concat, Happening.recorded?, Option.toList_none, List.append_nil]
    omega
  | send hmem henv => simpa using ih (by simpa using hpos)
  | finish hmem => simpa using ih (by simpa using hpos)
  | record hcan hlook =>
    -- A record is only made when no unit can be started.
    have ha := hc.account
    have hnext := ha.next_eq
    rw [ha.canStart_iff] at hcan
    simp only [History.records_concat, Happening.recorded?, Option.toList_some, List.length_append,
      List.length_singleton]
    omega

/-- When a unit is started, so many records have been made as it took for it to have room:
    none for the first units, and then one for each. -/
theorem records_at_spawn {hs' : History} {unit : Nat}
    (hc : Course plan seed clock (hs ++ .spawned unit :: hs') p) :
    hs.records.length = unit + 1 - plan.concurrency := by
  obtain ⟨p', q, hp', ht⟩ := hc.split
  have ha := hp'.account
  have hfilled := hp'.filled
  have hnext := ha.next_eq
  cases ht with
  | spawn hcan =>
    rw [ha.canStart_iff] at hcan
    omega

/-- When a unit is recorded, all units that have had room by then have been started. -/
theorem starts_at_record {hs' : History} {unit : Nat} {outcome : Outcome}
    (hc : Course plan seed clock (hs ++ .recorded unit outcome :: hs') p) :
    hs.starts =
      List.range (min plan.total.toNat (hs.records.length + plan.concurrency)) := by
  obtain ⟨p', q, hp', ht⟩ := hc.split
  have ha := hp'.account
  have hnext := ha.next_eq
  have hle := ha.next_le
  have hroom := ha.room
  rw [ha.starts]
  cases ht with
  | record hcan hlook =>
    rw [ha.canStart_iff] at hcan
    congr 1
    omega

end Course

/-- When the keeper waits, the pool is as full as it can be, and not empty. -/
theorem Account.size_of_wait (ha : Account plan seed clock hs p) (hworkers : 0 < plan.concurrency)
    (hwait : p.keeper plan = .wait) :
    p.size = min plan.concurrency (plan.total.toNat - hs.records.length) ∧ 0 < p.size := by
  have hroom := ha.room
  have hnext := ha.next_eq
  have hle := ha.next_le
  have hcan : ¬p.canStart plan := by
    intro hcan
    rw [Pool.keeper, if_pos hcan] at hwait
    split at hwait
    · cases hwait
    · cases hwait
  have hpos : 0 < p.size := by
    refine ha.size_pos hworkers ?_ hcan
    rw [hwait]
    exact Keeper.noConfusion
  rw [ha.canStart_iff] at hcan
  omega

/-! ### What comes before a unit is started -/

/-- The keeper has done nothing: no unit was started, and none was recorded. -/
def History.KeeperIdle (hs : History) : Prop := hs.starts = [] ∧ hs.records = []

theorem History.KeeperIdle.concat {hs : History} (hidle : hs.KeeperIdle) {h : Happening}
    (hspawned : h.spawned? = none) (hrecorded : h.recorded? = none) :
    History.KeeperIdle (hs ++ [h]) := by
  refine ⟨?_, ?_⟩
  · rw [starts_concat, hspawned, hidle.1]
    rfl
  · rw [records_concat, hrecorded, hidle.2]
    rfl

/-- The last thing that the keeper did, if it has done anything. -/
theorem History.exists_last (hs : History) : hs.KeeperIdle ∨
    ∃ (hs₀ mid : History) (h : Happening), hs = hs₀ ++ h :: mid ∧ mid.KeeperIdle ∧
      ((∃ unit, h = .spawned unit) ∨ ∃ unit outcome, h = .recorded unit outcome) := by
  induction hs using List.reverseRecOn with
  | nil => exact .inl ⟨rfl, rfl⟩
  | append_singleton hs h ih =>
    -- What a unit does on its own leaves the last thing that the keeper did the last one.
    have hunit : h.spawned? = none → h.recorded? = none → KeeperIdle (hs ++ [h]) ∨
        ∃ (hs₀ mid : History) (g : Happening), hs ++ [h] = hs₀ ++ g :: mid ∧ mid.KeeperIdle ∧
          ((∃ unit, g = .spawned unit) ∨ ∃ unit outcome, g = .recorded unit outcome) := by
      intro hspawned hrecorded
      rcases ih with hidle | ⟨hs₀, mid, g, rfl, hidle, hg⟩
      · exact .inl (hidle.concat hspawned hrecorded)
      · exact .inr ⟨hs₀, mid ++ [h], g, List.append_assoc .., hidle.concat hspawned hrecorded, hg⟩
    cases h with
    | spawned unit => exact .inr ⟨hs, [], _, rfl, ⟨rfl, rfl⟩, .inl ⟨unit, rfl⟩⟩
    | sent call => exact hunit rfl rfl
    | ended unit ending => exact hunit rfl rfl
    | recorded unit outcome =>
      exact .inr ⟨hs, [], _, rfl, ⟨rfl, rfl⟩, .inr ⟨unit, outcome, rfl⟩⟩

/-- The unit that is started next is the one after those started before. -/
theorem Course.starts_at_spawn {hs' : History} {unit : Nat}
    (hc : Course plan seed clock (hs ++ .spawned unit :: hs') p) : hs.starts = List.range unit := by
  obtain ⟨p', q, hp', ht⟩ := hc.split
  cases ht with
  | spawn hcan => exact hp'.account.starts

/-- A unit beyond the first ones is started right after a record: the keeper has done nothing
    in between. -/
theorem Course.record_before_spawn {hs' : History} {unit : Nat}
    (hc : Course plan seed clock (hs ++ .spawned unit :: hs') p) (hunit : plan.concurrency ≤ unit) :
    ∃ (hs₀ mid : History) (unit' : Nat) (outcome : Outcome),
      hs = hs₀ ++ .recorded unit' outcome :: mid ∧ mid.KeeperIdle := by
  have hrecords := hc.records_at_spawn
  have hstarts := hc.starts_at_spawn
  rcases hs.exists_last with hidle | ⟨hs₀, mid, h, rfl, hidle, hkeeper⟩
  · -- Without a record only the first units have had room.
    rw [hidle.2, List.length_nil] at hrecords
    omega
  · rcases hkeeper with ⟨unit', rfl⟩ | ⟨unit', outcome, rfl⟩
    · -- The unit before this one would have had room only one record earlier.
      rw [List.append_assoc] at hc
      have hrecords' := hc.records_at_spawn
      have hstarts' := hc.starts_at_spawn
      rw [History.records_append] at hrecords
      rw [History.starts_append, hstarts'] at hstarts
      have hlen := congrArg List.length hstarts
      have hmid : History.starts (.spawned unit' :: mid) = unit' :: mid.starts := rfl
      have hmid' : History.records (.spawned unit' :: mid) = mid.records := rfl
      rw [hmid, hidle.1] at hlen
      rw [hmid', hidle.2] at hrecords
      simp only [List.length_append, List.length_range, List.length_singleton, List.length_nil]
        at hlen hrecords
      omega
    · exact ⟨hs₀, mid, unit', outcome, rfl, hidle⟩

/-! ### The probe -/

/-- A probe counts the open calls, and has never seen more than there is room for. -/
theorem Course.probe (hc : Course plan seed clock hs p) (hold : Span) :
    ((Stub.probe hold).after .zero hs).inFlight = p.sending.length ∧
      ((Stub.probe hold).after .zero hs).peak ≤ plan.concurrency := by
  refine hc.induct (motive := fun hs p =>
    ((Stub.probe hold).after .zero hs).inFlight = p.sending.length ∧
      ((Stub.probe hold).after .zero hs).peak ≤ plan.concurrency) ⟨rfl, Nat.zero_le _⟩ ?_
  intro hs p h q hc ht ⟨hin, hpeak⟩
  rw [Sender.after_concat]
  cases ht with
  | spawn hcan => exact ⟨hin, hpeak⟩
  | send hmem henv =>
    have hroom := (hc.account.send hmem henv).room
    simp only [Pool.size, List.length_append, List.length_singleton] at hroom
    have hin' : ((Stub.probe hold).after .zero hs).inFlight + 1 = p.sending.length + 1 :=
      congrArg (· + 1) hin
    refine ⟨?_, ?_⟩
    · rw [List.length_append, List.length_singleton]
      exact hin'
    · refine Nat.max_le.2 ⟨hpeak, ?_⟩
      rw [hin']
      omega
  | finish hmem =>
    refine ⟨?_, hpeak⟩
    rw [List.length_erase_of_mem hmem]
    exact congrArg (· - 1) hin
  | record hcan hlook => exact ⟨hin, hpeak⟩

end

/-! ### The pool of a run -/

/-- **The pool is bounded and never idle.** At every time of every course of a run with workers,

    * the pool holds no more units than the plan allows, and every unit that was started is
      completed or in the pool, so the units started are the first ones;
    * when the keeper waits, the pool holds as many units as the plan allows, or all that are
      left, and so at least one;
    * a unit that has no room at first is started after exactly so many records, right after
      the last of them, and when a record is made all units that have room are started;
    * a probe has as many calls open as the pool, has never seen more of them than the plan
      allows, and none is open in the end.

    A run with a probe returns, and it takes one of these courses, up to where the keeper leaves
    and with each call ending as the probe said. The probe has seen what it sees of that course. -/
theorem load_pool_bounded_and_filled (plan : LoadPlan) (seed : UInt64) (clock : Span → Instant)
    (hold : Span) (hworkers : 0 < plan.concurrency) :
    (∀ (hs : History) (p : Pool), Course plan seed clock hs p →
      p.size ≤ plan.concurrency ∧ p.next = p.summary.completed.toNat + p.size ∧
      hs.starts = List.range p.next ∧
      (p.keeper plan = .wait →
        p.size = min plan.concurrency (plan.total.toNat - p.summary.completed.toNat) ∧
          0 < p.size) ∧
      (∀ (hs₁ hs₂ : History) (unit : Nat), hs = hs₁ ++ .spawned unit :: hs₂ →
        hs₁.records.length = unit + 1 - plan.concurrency ∧
          (plan.concurrency ≤ unit →
            ∃ (hs₀ mid : History) (unit' : Nat) (outcome : Outcome),
              hs₁ = hs₀ ++ .recorded unit' outcome :: mid ∧ mid.KeeperIdle)) ∧
      (∀ (hs₁ hs₂ : History) (unit : Nat) (outcome : Outcome),
        hs = hs₁ ++ .recorded unit outcome :: hs₂ →
          hs₁.starts =
            List.range (min plan.total.toNat (hs₁.records.length + plan.concurrency))) ∧
      ((Stub.probe hold).after .zero hs).inFlight = p.sending.length ∧
      ((Stub.probe hold).after .zero hs).peak ≤ plan.concurrency ∧
      (p.keeper plan = .leave → ((Stub.probe hold).after .zero hs).inFlight = 0)) ∧
    ∃ hs p res, Course plan seed clock hs p ∧ p.keeper plan = .leave ∧
      hs.endings.Perm ((Stub.probe hold).promised .zero hs) ∧
      (LoadSetting.mk plan seed (Stub.probe hold) clock).run .zero = .ok res ∧
      res.summary = p.summary.finish res.length (clock res.length) ∧
      res.sender = (Stub.probe hold).after .zero hs ∧
      res.sender.inFlight = 0 ∧ res.sender.peak ≤ plan.concurrency := by
  have hgauge : ∀ {hs : History} {p : Pool}, Course plan seed clock hs p →
      p.keeper plan = .leave → ((Stub.probe hold).after .zero hs).inFlight = 0 := by
    intro hs p hc hleave
    obtain ⟨-, hsending, -⟩ := hc.account.empty_of_leave hleave
    rw [(hc.probe hold).1, hsending]
    rfl
  refine ⟨fun hs p hc => ?_, ?_⟩
  · have ha := hc.account
    rw [ha.completed]
    refine ⟨ha.room, ha.next_eq, ha.starts, ha.size_of_wait hworkers, ?_, ?_, (hc.probe hold).1,
      (hc.probe hold).2, hgauge hc⟩
    · rintro hs₁ hs₂ unit rfl
      exact ⟨hc.records_at_spawn, hc.record_before_spawn⟩
    · rintro hs₁ hs₂ unit outcome rfl
      exact hc.starts_at_record
  · obtain ⟨hs, p, res, hc, hleave, hobeyed, hrun, hsummary, hsender⟩ :=
      exists_run (LoadSetting.mk plan seed (Stub.probe hold) clock) .zero hworkers
    have hendings := (hc.account.complete hleave).endings_promised hobeyed
    refine ⟨hs, p, res, hc, hleave, hendings, hrun, hsummary, hsender, ?_⟩
    rw [hsender]
    exact ⟨hgauge hc hleave, (hc.probe hold).2⟩

/-- Two units at a time, three in all: the third one is started right after the first record,
    even if that unit broke down, and fills the pool again. -/
theorem load_pool_filled_after_breakdown :
    let plan : LoadPlan := .basic 3 2 .mixed
    let clock : Span → Instant := fun _ => ⟨0, 0⟩
    ∃ call : Call,
      let before : History :=
        [.spawned 0, .spawned 1, .sent call, .ended 1 (.broken "out of memory")]
      let record : Happening := .recorded 1 (Ending.outcome 1 (.broken "out of memory"))
      ∃ p, Course plan 7 clock (before ++ [record, .spawned 2]) p ∧ p.keeper plan = .wait ∧
        p.size = 2 ∧ before.starts = List.range 2 ∧
        ((Stub.probe ⟨5⟩).after .zero (before ++ [record, .spawned 2])).peak ≤ 2 := by
  intro plan clock
  obtain ⟨envelope, henv⟩ := exists_unitEnvelope .mixed 7 1 ⟨0, 0⟩
  refine ⟨⟨1, ⟨0⟩, envelope⟩, ?_⟩
  intro before record
  have h₁ : Course plan 7 clock [.spawned 0] ⟨1, [0], [], [], .start 3 ⟨0, 0⟩⟩ :=
    Course.start.takes (.spawn rfl)
  have h₂ : Course plan 7 clock [.spawned 0, .spawned 1]
      ⟨2, [0, 1], [], [], .start 3 ⟨0, 0⟩⟩ := h₁.takes (.spawn rfl)
  have h₃ : Course plan 7 clock [.spawned 0, .spawned 1, .sent ⟨1, ⟨0⟩, envelope⟩]
      ⟨2, [0], [1], [], .start 3 ⟨0, 0⟩⟩ :=
    h₂.takes (.send (List.mem_cons_of_mem 0 List.mem_cons_self) henv)
  have h₄ : Course plan 7 clock before
      ⟨2, [0], [], [(1, .broken "out of memory")], .start 3 ⟨0, 0⟩⟩ :=
    h₃.takes (.finish List.mem_cons_self)
  have h₅ : Course plan 7 clock (before ++ [record]) ⟨2, [0], [], [],
      (Summary.start 3 ⟨0, 0⟩).record (Ending.outcome 1 (.broken "out of memory"))⟩ :=
    h₄.takes (.record (by decide) rfl)
  have h₆ : Course plan 7 clock (before ++ [record, .spawned 2]) ⟨3, [0, 2], [], [],
      (Summary.start 3 ⟨0, 0⟩).record (Ending.outcome 1 (.broken "out of memory"))⟩ :=
    h₅.takes (.spawn rfl)
  obtain ⟨-, -, -, hwait, -, hrecord, -, hpeak, -⟩ :=
    (load_pool_bounded_and_filled plan 7 clock ⟨5⟩ (by decide)).1 _ _ h₆
  exact ⟨_, h₆, rfl, (hwait rfl).1, hrecord before [.spawned 2] 1 _ rfl, hpeak⟩

end SyntheticLoad
