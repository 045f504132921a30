import Mathlib.Data.List.Nodup
import Mathlib.Data.List.Perm.Subperm
import SyntheticLoad.Proofs.Load.Course
import SyntheticLoad.Proofs.Summary.Tally

/-!
# The account of a load run

A unit goes through the pool in four steps: it is started, makes its call, ends and is
recorded. At each place in between it is either still there or has gone on, and nothing
else comes or goes (`Account`): the units started so far are those that have yet to make
their call and those that have made it, and so on. Every course keeps this account
(`Course.account`), by one case for each thing that can happen.

What follows from it:

* the number of the next unit is the number of records and of the units in the pool
  (`Account.next_eq`), so the counters of the summary are exact (`Account.counts`);
* a run has no more than four happenings for each unit (`Account.length_le`), and as long
  as it is not over, something can happen (`Account.exists_takes`);
* when the keeper leaves, every unit has been through all four steps
  (`Account.complete`).
-/

namespace SyntheticLoad

open SyntheticLoad.Random Time

/-! ### The keeper

What the keeper does next is decided in the order of its loops: it leaves when all units are
counted, starts a unit if it can, and otherwise waits for one to end, unless the pool is empty. -/

/-- What the keeper of the pool does next. -/
inductive Keeper
  /-- It starts a unit. -/
  | fill
  /-- It waits for a unit to end, and records it. -/
  | wait
  /-- It gives up, with units left and nothing to wait for. -/
  | giveUp
  /-- It leaves, as all units have been recorded. -/
  | leave
  deriving DecidableEq, Repr

/-- What the keeper of a pool does next. -/
def Pool.keeper (plan : LoadPlan) (p : Pool) : Keeper :=
  if p.summary.completed < plan.total then
    if p.canStart plan then .fill
    else if p.size = 0 then .giveUp
    else .wait
  else
    .leave

/-! ### Things that move from one list to another -/

section Moves

variable {α : Type} {a : α} {l l₁ : List α}

/-- What is put into the first list is put into both together. -/
theorem perm_push (a : α) (l l' : List α) : ((l ++ [a]) ++ l').Perm ((l ++ l') ++ [a]) := by
  rw [List.append_assoc, List.append_assoc]
  exact List.perm_append_comm.append_left l

/-- What moves from the first list to the second stays in both together. -/
theorem perm_move (h : l.Perm (a :: l₁)) (l' : List α) : (l₁ ++ (l' ++ [a])).Perm (l ++ l') := by
  rw [← List.append_assoc]
  exact List.perm_append_comm.trans (h.symm.append_right l')

end Moves

/-- What is found under a key is in the list. -/
theorem mem_of_lookup {β : Type} {k : Nat} {b : β} {l : List (Nat × β)}
    (h : l.lookup k = some b) : (k, b) ∈ l := by
  obtain ⟨l₁, l₂, rfl, -⟩ := List.lookup_eq_some_iff.1 h
  exact List.mem_append_right l₁ List.mem_cons_self

/-- What is to be recorded of a unit that has ended. -/
def recordOf (e : Nat × Ending) : Nat × Outcome := (e.1, e.2.outcome e.1)

/-- An answer is recorded as it is, and a breakdown as the error that tells of it. -/
theorem mem_map_recordOf {es : List (Nat × Ending)} {unit : Nat} {outcome : Outcome} :
    (unit, outcome) ∈ es.map recordOf ↔
      (unit, .answered outcome) ∈ es ∨ ∃ message, (unit, .broken message) ∈ es ∧
        outcome = .error ("unit aborted: " ++ breakdownText unit message) := by
  rw [List.mem_map]
  constructor
  · rintro ⟨⟨unit', ending⟩, hmem, heq⟩
    obtain ⟨rfl, rfl⟩ := Prod.mk.inj heq
    cases ending with
    | answered o => exact .inl hmem
    | broken message => exact .inr ⟨message, hmem, Ending.outcome_broken _ _⟩
  · rintro (hmem | ⟨message, hmem, rfl⟩)
    · exact ⟨_, hmem, rfl⟩
    · exact ⟨_, hmem, rfl⟩

/-! ### The account -/

section

variable {plan : LoadPlan} {seed : UInt64} {clock : Span → Instant} {hs : History} {p : Pool}

/-- Where the units are that have been started, and what they were given. -/
structure Account (plan : LoadPlan) (seed : UInt64) (clock : Span → Instant) (hs : History)
    (p : Pool) : Prop where
  /-- The units were started in the order of their numbers. -/
  starts : hs.starts = List.range p.next
  next_le : p.next ≤ plan.total.toNat
  room : p.size ≤ plan.concurrency
  /-- Who has been started has yet to make its call, or has made it. -/
  calls : (p.started ++ hs.calls.map Call.unit).Perm (List.range p.next)
  /-- A call that was made is open, or it has ended. -/
  endings : (p.sending ++ hs.endings.map Prod.fst).Perm (hs.calls.map Call.unit)
  /-- Who has ended has yet to be recorded, or is recorded with its outcome. -/
  records : (p.ended.map recordOf ++ hs.records).Perm (hs.endings.map recordOf)
  /-- Every unit handed its own envelope over. -/
  envelopes : ∀ c ∈ hs.calls,
    unitEnvelope plan.selector seed c.unit (clock c.time) = .ok c.envelope
  summary : p.summary = (Summary.start plan.total (clock ⟨0⟩)).tally (hs.records.map Prod.snd)

namespace Account

theorem start : Account plan seed clock [] (.fresh plan (clock ⟨0⟩)) where
  starts := rfl
  next_le := Nat.zero_le _
  room := Nat.zero_le _
  calls := List.Perm.refl _
  endings := List.Perm.refl _
  records := List.Perm.refl _
  envelopes := fun _ hc => absurd hc List.not_mem_nil
  summary := rfl

/-- The next unit starts. -/
theorem spawn (ha : Account plan seed clock hs p) (hcan : p.canStart plan) :
    Account plan seed clock (hs ++ [.spawned p.next])
      { p with next := p.next + 1, started := p.started ++ [p.next] } := by
  rw [Pool.canStart, Bool.and_eq_true, decide_eq_true_eq, decide_eq_true_eq] at hcan
  obtain ⟨hsize, hnext⟩ := hcan
  refine ⟨?_, hnext, ?_, ?_, by simpa using ha.endings, by simpa using ha.records,
    by simpa using ha.envelopes, by simpa using ha.summary⟩
  · rw [History.starts_concat, ha.starts, List.range_succ]
    rfl
  · simp only [Pool.size, List.length_append, List.length_singleton] at hsize ⊢
    omega
  · rw [History.calls_concat, List.range_succ]
    simpa using (perm_push p.next p.started (hs.calls.map Call.unit)).trans
      (ha.calls.append_right [p.next])

/-- A unit makes its call. -/
theorem send (ha : Account plan seed clock hs p) {call : Call} (hmem : call.unit ∈ p.started)
    (henv : unitEnvelope plan.selector seed call.unit (clock call.time) = .ok call.envelope) :
    Account plan seed clock (hs ++ [.sent call])
      { p with started := p.started.erase call.unit, sending := p.sending ++ [call.unit] } := by
  refine ⟨by simpa using ha.starts, ha.next_le, ?_, ?_, ?_, by simpa using ha.records, ?_,
    by simpa using ha.summary⟩
  · have hroom := ha.room
    have hpos : 0 < p.started.length := List.length_pos_of_mem hmem
    simp only [Pool.size, List.length_append, List.length_singleton,
      List.length_erase_of_mem hmem] at hroom ⊢
    omega
  · rw [History.calls_concat]
    simpa using (perm_move (List.perm_cons_erase hmem) (hs.calls.map Call.unit)).trans ha.calls
  · rw [History.calls_concat, History.endings_concat]
    simpa using (perm_push call.unit p.sending (hs.endings.map Prod.fst)).trans
      (ha.endings.append_right [call.unit])
  · intro c hc
    rw [History.calls_concat] at hc
    rcases List.mem_append.1 hc with hc | hc
    · exact ha.envelopes c hc
    · obtain rfl : c = call := by simpa using hc
      exact henv

/-- The call of a unit ends. -/
theorem finish (ha : Account plan seed clock hs p) {unit : Nat} (hmem : unit ∈ p.sending)
    (ending : Ending) : Account plan seed clock (hs ++ [.ended unit ending])
      { p with sending := p.sending.erase unit, ended := p.ended ++ [(unit, ending)] } := by
  refine ⟨by simpa using ha.starts, ha.next_le, ?_, by simpa using ha.calls, ?_, ?_,
    by simpa using ha.envelopes, by simpa using ha.summary⟩
  · have hroom := ha.room
    have hpos : 0 < p.sending.length := List.length_pos_of_mem hmem
    simp only [Pool.size, List.length_append, List.length_singleton,
      List.length_erase_of_mem hmem] at hroom ⊢
    omega
  · rw [History.endings_concat, History.calls_concat]
    simpa using (perm_move (List.perm_cons_erase hmem) (hs.endings.map Prod.fst)).trans ha.endings
  · rw [History.endings_concat, History.records_concat]
    simpa using (perm_push (recordOf (unit, ending)) (p.ended.map recordOf) hs.records).trans
      (ha.records.append_right [recordOf (unit, ending)])

/-- The outcome of a unit is recorded. -/
theorem record (ha : Account plan seed clock hs p) {unit : Nat} {ending : Ending}
    (hmem : (unit, ending) ∈ p.ended) :
    Account plan seed clock (hs ++ [.recorded unit (ending.outcome unit)])
      { p with
        ended := p.ended.erase (unit, ending)
        summary := p.summary.record (ending.outcome unit) } := by
  refine ⟨by simpa using ha.starts, ha.next_le, ?_, by simpa using ha.calls,
    by simpa using ha.endings, ?_, by simpa using ha.envelopes, ?_⟩
  · have hroom := ha.room
    simp only [Pool.size, List.length_erase_of_mem hmem] at hroom ⊢
    omega
  · rw [History.endings_concat, History.records_concat]
    simp only [Happening.ended?, Option.toList_none, List.append_nil]
    exact (perm_move ((List.perm_cons_erase hmem).map recordOf) hs.records).trans ha.records
  · rw [History.records_concat, List.map_append, ha.summary]
    exact (Summary.tally_concat _ _ _).symm

/-- Each of the four things that can happen keeps the account. -/
theorem takes (ha : Account plan seed clock hs p) {h : Happening} {q : Pool}
    (ht : Takes plan seed clock p h q) : Account plan seed clock (hs ++ [h]) q := by
  cases ht with
  | spawn hcan => exact ha.spawn hcan
  | send hmem henv => exact ha.send hmem henv
  | finish hmem => exact ha.finish hmem _
  | record _ hlook => exact ha.record (mem_of_lookup hlook)

/-! ### What the account says -/

/-- Every unit that was started is in the pool or recorded. -/
theorem next_eq (ha : Account plan seed clock hs p) : p.next = hs.records.length + p.size := by
  have hcalls := ha.calls.length_eq
  have hendings := ha.endings.length_eq
  have hrecords := ha.records.length_eq
  simp only [List.length_append, List.length_map, List.length_range] at hcalls hendings hrecords
  rw [Pool.size]
  omega

theorem length_records_le (ha : Account plan seed clock hs p) :
    hs.records.length ≤ plan.total.toNat :=
  Nat.le_trans (Nat.le_add_right _ p.size) (ha.next_eq ▸ ha.next_le)

/-- No counter of the summary wraps around. -/
theorem counts (ha : Account plan seed clock hs p) :
    p.summary.Counts (hs.records.map Prod.snd) := by
  rw [ha.summary]
  refine Summary.counts_tally plan.total (clock ⟨0⟩) ?_
  rw [List.length_map]
  exact Nat.lt_of_le_of_lt ha.length_records_le plan.total.toNat_lt_size

/-- The completed units are those that have been recorded. -/
theorem completed (ha : Account plan seed clock hs p) :
    p.summary.completed.toNat = hs.records.length := by
  rw [ha.counts.completed, List.length_map]
  rw [List.length_map]
  exact Nat.lt_of_le_of_lt ha.length_records_le plan.total.toNat_lt_size

/-- No more than four things happen to a unit. -/
theorem length_le_next (ha : Account plan seed clock hs p) : hs.length ≤ 4 * p.next := by
  have hstarts := congrArg List.length ha.starts
  have hcalls := ha.calls.length_eq
  have hendings := ha.endings.length_eq
  have hrecords := ha.records.length_eq
  simp only [List.length_append, List.length_map, List.length_range] at *
  rw [hs.length_eq]
  omega

/-- A run has no more than four happenings for each unit, and so many only if every unit
    has been recorded. -/
theorem length_le (ha : Account plan seed clock hs p) :
    hs.length ≤ 4 * plan.total.toNat ∧
      (hs.length = 4 * plan.total.toNat → hs.records.length = plan.total.toNat) := by
  have hstarts := congrArg List.length ha.starts
  have hcalls := ha.calls.length_eq
  have hendings := ha.endings.length_eq
  have hrecords := ha.records.length_eq
  have hnext := ha.next_le
  simp only [List.length_append, List.length_map, List.length_range] at *
  rw [hs.length_eq]
  omega

/-- The keeper leaves when all units have been recorded, and not before. -/
theorem keeper_eq_leave_iff (ha : Account plan seed clock hs p) :
    p.keeper plan = .leave ↔ hs.records.length = plan.total.toNat := by
  have hle := ha.length_records_le
  have hiff : p.summary.completed < plan.total ↔ hs.records.length < plan.total.toNat := by
    rw [UInt64.lt_iff_toNat_lt, ha.completed]
  constructor
  · intro hleave
    -- With a unit that is not recorded the loop is entered, and every way on stays in it.
    by_contra hne
    have hlt : p.summary.completed < plan.total := hiff.2 (by omega)
    rw [Pool.keeper, if_pos hlt] at hleave
    split at hleave
    · cases hleave
    · split at hleave <;> cases hleave
  · intro heq
    have hnot : ¬p.summary.completed < plan.total := fun hlt => by
      have := hiff.1 hlt
      omega
    rw [Pool.keeper, if_neg hnot]

/-- Units are left to start as long as the pool has room and not all units are recorded
    or under way. -/
theorem canStart_iff (ha : Account plan seed clock hs p) : p.canStart plan ↔
    p.size < plan.concurrency ∧ hs.records.length + p.size < plan.total.toNat := by
  rw [Pool.canStart, Bool.and_eq_true, decide_eq_true_eq, decide_eq_true_eq, ha.next_eq]

/-- The keeper never finds the pool empty with units left. -/
theorem keeper_ne_giveUp (ha : Account plan seed clock hs p) (hworkers : 0 < plan.concurrency) :
    p.keeper plan ≠ .giveUp := by
  intro hgive
  rw [Pool.keeper] at hgive
  split at hgive
  · next hlt =>
    split at hgive
    · cases hgive
    · next hcan =>
      split at hgive
      · next hzero =>
        -- The pool is empty and a unit is left, so it could have been started.
        rw [UInt64.lt_iff_toNat_lt, ha.completed] at hlt
        refine hcan (ha.canStart_iff.2 ?_)
        rw [hzero]
        exact ⟨hworkers, hlt⟩
      · cases hgive
  · cases hgive

/-- If the keeper neither leaves nor can start a unit, units are in the pool. -/
theorem size_pos (ha : Account plan seed clock hs p) (hworkers : 0 < plan.concurrency)
    (hleave : p.keeper plan ≠ .leave) (hcan : ¬p.canStart plan) : 0 < p.size := by
  refine Nat.pos_of_ne_zero fun hzero => ?_
  rw [Ne, ha.keeper_eq_leave_iff] at hleave
  have hle := ha.length_records_le
  refine hcan (ha.canStart_iff.2 ?_)
  omega

/-- As long as the keeper does not leave, something can happen. -/
theorem exists_takes (ha : Account plan seed clock hs p) (hworkers : 0 < plan.concurrency)
    (hleave : p.keeper plan ≠ .leave) : ∃ h q, Takes plan seed clock p h q := by
  by_cases hcan : p.canStart plan
  · exact ⟨_, _, .spawn hcan⟩
  have hsize : 0 < p.size := ha.size_pos hworkers hleave hcan
  -- A unit is in the pool; whichever of the three places it is at, it can go on.
  cases hstarted : p.started with
  | cons unit _ =>
    obtain ⟨envelope, henv⟩ := exists_unitEnvelope plan.selector seed unit (clock ⟨0⟩)
    have hmem : unit ∈ p.started := hstarted ▸ List.mem_cons_self
    have ht : Takes plan seed clock p (.sent ⟨unit, ⟨0⟩, envelope⟩) _ := .send hmem henv
    exact ⟨_, _, ht⟩
  | nil =>
    cases hsending : p.sending with
    | cons unit _ =>
      have hmem : unit ∈ p.sending := hsending ▸ List.mem_cons_self
      have ht : Takes plan seed clock p (.ended unit (.broken "")) _ := .finish hmem
      exact ⟨_, _, ht⟩
    | nil =>
      cases hended : p.ended with
      | cons e _ =>
        have hlook : p.ended.lookup e.1 = some e.2 := by
          rw [hended]
          exact List.lookup_cons_self
        exact ⟨_, _, .record hcan hlook⟩
      | nil =>
        simp [Pool.size, hstarted, hsending, hended] at hsize

/-- When the keeper leaves, the pool is empty and no unit is left to start. -/
theorem empty_of_leave (ha : Account plan seed clock hs p) (hleave : p.keeper plan = .leave) :
    p.started = [] ∧ p.sending = [] ∧ p.ended = [] ∧ p.next = plan.total.toNat := by
  have hrecords := ha.keeper_eq_leave_iff.1 hleave
  have hnext := ha.next_eq
  have hle := ha.next_le
  rw [Pool.size] at hnext
  refine ⟨List.eq_nil_of_length_eq_zero ?_, List.eq_nil_of_length_eq_zero ?_,
    List.eq_nil_of_length_eq_zero ?_, ?_⟩ <;> omega

end Account

/-- Every unit has been through the run exactly once. -/
structure Complete (plan : LoadPlan) (seed : UInt64) (clock : Span → Instant) (hs : History)
    (p : Pool) : Prop where
  /-- The units were started in the order of their numbers, each once. -/
  starts : hs.starts = List.range plan.total.toNat
  /-- Each unit made one call. -/
  calls : (hs.calls.map Call.unit).Perm (List.range plan.total.toNat)
  /-- Every call was made with the envelope of its unit. -/
  envelopes : ∀ c ∈ hs.calls,
    unitEnvelope plan.selector seed c.unit (clock c.time) = .ok c.envelope
  /-- Each call ended once. -/
  endings : (hs.endings.map Prod.fst).Perm (List.range plan.total.toNat)
  /-- Every ending was recorded once, as the outcome that it counts as. -/
  records : hs.records.Perm (hs.endings.map recordOf)
  /-- A call that was answered is recorded with its answer, and one that broke down as the
      error that tells of it. -/
  recorded_iff : ∀ unit outcome, (unit, outcome) ∈ hs.records ↔
    (unit, .answered outcome) ∈ hs.endings ∨ ∃ message, (unit, .broken message) ∈ hs.endings ∧
      outcome = .error ("unit aborted: " ++ breakdownText unit message)
  completed : p.summary.completed = plan.total

/-- Four things have happened to every unit. -/
theorem Complete.length_eq (h : Complete plan seed clock hs p) :
    hs.length = 4 * plan.total.toNat := by
  have hstarts := congrArg List.length h.starts
  have hcalls := h.calls.length_eq
  have hendings := h.endings.length_eq
  have hrecords := h.records.length_eq
  simp only [List.length_map, List.length_range] at *
  rw [hs.length_eq]
  omega

/-- The endings of a complete course, if it is known how each call can end. -/
theorem Complete.endings_perm (h : Complete plan seed clock hs p) {l : List (Nat × Ending)}
    (hunits : l.map Prod.fst = hs.calls.map Call.unit) (hsub : ∀ e ∈ hs.endings, e ∈ l) :
    hs.endings.Perm l := by
  have hnodup : hs.endings.Nodup :=
    List.Nodup.of_map Prod.fst (h.endings.nodup_iff.2 List.nodup_range)
  refine (List.Nodup.subperm hnodup hsub).perm_of_length_le ?_
  have hlen := (h.endings.trans h.calls.symm).length_eq
  rw [← hunits, List.length_map, List.length_map] at hlen
  exact Nat.le_of_eq hlen.symm

/-- When the keeper leaves, every unit has been through the run. -/
theorem Account.complete (ha : Account plan seed clock hs p) (hleave : p.keeper plan = .leave) :
    Complete plan seed clock hs p := by
  obtain ⟨hstarted, hsending, hended, hnext⟩ := ha.empty_of_leave hleave
  have hcalls := ha.calls
  have hendings := ha.endings
  have hrecords := ha.records
  rw [hstarted, List.nil_append, hnext] at hcalls
  rw [hsending, List.nil_append] at hendings
  rw [hended, List.map_nil, List.nil_append] at hrecords
  refine ⟨hnext ▸ ha.starts, hcalls, ha.envelopes, hendings.trans hcalls, hrecords,
    fun _ _ => hrecords.mem_iff.trans mem_map_recordOf, ?_⟩
  rw [← UInt64.toNat_inj, ha.completed]
  exact ha.keeper_eq_leave_iff.1 hleave

namespace Course

/-- Every course keeps the account. -/
theorem account (hc : Course plan seed clock hs p) : Account plan seed clock hs p :=
  hc.induct Account.start fun _ _ _ _ _ ht ha => ha.takes ht

/-- In a run without workers nothing happens. -/
theorem eq_nil_of_noWorkers (hc : Course plan seed clock hs p) (hzero : plan.concurrency = 0) :
    hs = [] := by
  have hnone : hs.starts = [] := by
    refine hc.induct (motive := fun hs _ => hs.starts = []) rfl fun hs p h q hc ht ih => ?_
    cases ht with
    | spawn hcan =>
      have hlt := (hc.account.canStart_iff.1 hcan).1
      omega
    | send => simpa using ih
    | finish => simpa using ih
    | record => simpa using ih
  have hnext : p.next = 0 := by
    have hrange := hc.account.starts
    rw [hnone] at hrange
    simpa using (congrArg List.length hrange).symm
  have hlen := hc.account.length_le_next
  rw [hnext] at hlen
  exact List.eq_nil_of_length_eq_zero (Nat.le_zero.1 hlen)

end Course

end

end SyntheticLoad
