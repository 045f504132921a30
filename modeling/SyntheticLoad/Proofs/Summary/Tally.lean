import Mathlib.Data.List.Induction
import SyntheticLoad.Summary.Basic

/-!
# Tallies of outcomes

A summary that records outcomes one after the other keeps a tally of them
(`Summary.tally`). The order in which they come does not matter (`tally_perm`), and of
an outcome only its status does (`tally_eq_of_statuses`): why there was no answer is
not counted.

The counters are words of 64 bits. As long as there are fewer outcomes than words, they
are exact (`counts_tally`): no counter wraps around, and the successes and errors add up
to the number of outcomes.
-/

namespace SyntheticLoad

open Time

/-- A delivery succeeded if its status says so. -/
theorem Outcome.isSuccess_eq (o : Outcome) : o.isSuccess = o.status?.any isSuccessCode := by
  cases o <;> rfl

/-! ### Counts by status -/

namespace StatusCounts

/-- The statuses stand in increasing order, each once. -/
def Ordered (l : StatusCounts) : Prop := l.Pairwise fun a b => a.1 < b.1

instance (l : StatusCounts) : Decidable l.Ordered :=
  inferInstanceAs (Decidable (l.Pairwise fun a b => a.1 < b.1))

/-- The numbers of the statuses increase. -/
theorem Ordered.codes {l : StatusCounts} (h : l.Ordered) :
    (l.map fun e => e.1.toNat).Pairwise (· < ·) :=
  List.pairwise_map.2 (h.imp fun hlt => UInt16.lt_iff_toNat_lt.1 hlt)

/-- Which of two statuses is counted first does not matter. -/
theorem bump_comm (a b : UInt16) (l : StatusCounts) : (l.bump a).bump b = (l.bump b).bump a := by
  induction l with
  | nil => grind [bump]
  | cons p rest ih => grind [bump]

theorem mem_keys_bump {c d : UInt16} {n : UInt64} {l : StatusCounts} (h : (d, n) ∈ l.bump c) :
    d = c ∨ ∃ m, (d, m) ∈ l := by
  induction l with
  | nil =>
    obtain ⟨rfl, -⟩ := Prod.mk.inj (List.mem_singleton.1 h)
    exact .inl rfl
  | cons p rest ih =>
    obtain ⟨c', m⟩ := p
    rw [bump] at h
    split at h
    · rcases List.mem_cons.1 h with heq | hmem
      · exact .inl (Prod.mk.inj heq).1
      · exact .inr ⟨n, hmem⟩
    · split at h
      · rcases List.mem_cons.1 h with heq | hmem
        · exact .inr ⟨m, (Prod.mk.inj heq).1 ▸ List.mem_cons_self⟩
        · exact .inr ⟨n, List.mem_cons_of_mem _ hmem⟩
      · rcases List.mem_cons.1 h with heq | hmem
        · exact .inr ⟨m, (Prod.mk.inj heq).1 ▸ List.mem_cons_self⟩
        · obtain heq | ⟨m', hm'⟩ := ih hmem
          · exact .inl heq
          · exact .inr ⟨m', List.mem_cons_of_mem _ hm'⟩

/-- Counting a status keeps the order. -/
theorem bump_ordered {l : StatusCounts} (h : l.Ordered) (c : UInt16) : (l.bump c).Ordered := by
  induction l with
  | nil => exact List.pairwise_singleton _ _
  | cons p rest ih =>
    obtain ⟨c', m⟩ := p
    obtain ⟨hfirst, hrest⟩ := List.pairwise_cons.1 h
    rw [bump]
    split
    · next hlt =>
      refine List.pairwise_cons.2 ⟨fun q hq => ?_, h⟩
      rcases List.mem_cons.1 hq with rfl | hq
      · exact hlt
      · exact UInt16.lt_trans hlt (hfirst q hq)
    · split
      · exact List.pairwise_cons.2 ⟨hfirst, hrest⟩
      · next hge hne =>
        -- Behind the first entry there is nothing but later statuses, old or new.
        refine List.pairwise_cons.2 ⟨fun q hq => ?_, ih hrest⟩
        obtain heq | ⟨m', hm'⟩ := mem_keys_bump hq
        · show c' < q.1
          rw [heq]
          exact UInt16.lt_of_le_of_ne (UInt16.not_lt.1 hge) (Ne.symm hne)
        · exact hfirst (q.1, m') hm'

/-- Counting a status adds one to its count and leaves the others. -/
theorem lookup_bump {l : StatusCounts} (h : l.Ordered) (c d : UInt16) :
    (l.bump c).lookup d = if d = c then some ((l.lookup c).getD 0 + 1) else l.lookup d := by
  induction l with
  | nil => grind [bump]
  | cons p rest ih =>
    obtain ⟨c', m⟩ := p
    obtain ⟨hfirst, hrest⟩ := List.pairwise_cons.1 h
    -- A status that comes before the first entry is not behind it either.
    have hnone : c < c' → rest.lookup c = none := by
      intro hlt
      rw [List.lookup_eq_none_iff]
      intro q hq
      have hlt' : c < q.1 := UInt16.lt_trans hlt (hfirst q hq)
      grind
    have ih := ih hrest
    grind [bump]

end StatusCounts

namespace Summary

/-! ### Records

What a record does to each of the counts. -/

theorem successes_record (s : Summary) (o : Outcome) :
    (s.record o).successes = if o.isSuccess then s.successes + 1 else s.successes := by
  cases o <;> simp only [record, countBand, countStatus] <;> split <;> rfl

theorem errors_record (s : Summary) (o : Outcome) :
    (s.record o).errors = if !o.isSuccess then s.errors + 1 else s.errors := by
  cases o <;> simp only [record, countBand, countStatus, Bool.not_eq_true'] <;> split <;> simp_all

theorem transportErrors_record (s : Summary) (o : Outcome) : (s.record o).transportErrors =
    if o.status?.isNone then s.transportErrors + 1 else s.transportErrors := by
  cases o <;> simp only [record, countBand, countStatus] <;> split <;> rfl

theorem statusCounts_record (s : Summary) (o : Outcome) : (s.record o).statusCounts =
    match o with
    | .status code => s.statusCounts.bump code
    | .error _ => s.statusCounts := by
  cases o <;> simp only [record, countBand, countStatus] <;> split <;> rfl

/-! ### Tallies -/

/-- Records outcomes one after the other. -/
def tally (s : Summary) (os : List Outcome) : Summary := os.foldl record s

theorem tally_append (s : Summary) (os os' : List Outcome) :
    s.tally (os ++ os') = (s.tally os).tally os' := List.foldl_append

theorem tally_concat (s : Summary) (os : List Outcome) (o : Outcome) :
    s.tally (os ++ [o]) = (s.tally os).record o := tally_append s os [o]

/-- Which of two outcomes is recorded first does not matter. -/
theorem record_comm (s : Summary) (a b : Outcome) :
    (s.record a).record b = (s.record b).record a := by
  cases a <;> cases b <;>
    simp only [record, countBand, countStatus] <;>
    split <;> split <;> simp [StatusCounts.bump_comm]

/-- The order of the outcomes does not matter. -/
theorem tally_perm (s : Summary) {os os' : List Outcome} (h : os.Perm os') :
    s.tally os = s.tally os' :=
  h.foldl_eq' (fun a _ b _ s => record_comm s a b) s

/-- What becomes of a summary when outcomes with these statuses are recorded. -/
theorem record_eq_of_status {s : Summary} {a b : Outcome} (h : a.status? = b.status?) :
    s.record a = s.record b := by
  cases a with
  | status code =>
    cases b with
    | status code' => rw [Option.some.inj h]
    | error reason => cases h
  | error reason =>
    cases b with
    | status code => cases h
    | error reason' => rfl

/-- An outcome with a status, or without one. -/
def outcomeOf : Option UInt16 → Outcome
  | some code => .status code
  | none => .error ""

/-- Only the statuses of the outcomes matter. -/
theorem tally_statuses (s : Summary) (os : List Outcome) :
    s.tally ((os.map Outcome.status?).map outcomeOf) = s.tally os := by
  induction os generalizing s with
  | nil => rfl
  | cons o os ih =>
    have ho : (outcomeOf o.status?).status? = o.status? := by cases o <;> rfl
    show (s.record (outcomeOf o.status?)).tally _ = (s.record o).tally os
    rw [record_eq_of_status ho]
    exact ih _

/-- Outcomes with the same statuses, in whatever order, come to the same tally. -/
theorem tally_eq_of_statuses (s : Summary) {os os' : List Outcome}
    (h : (os.map Outcome.status?).Perm (os'.map Outcome.status?)) : s.tally os = s.tally os' := by
  rw [← tally_statuses s os, ← tally_statuses s os']
  exact tally_perm s (h.map outcomeOf)

/-! ### Exact counts -/

/-- The counters of a summary are the numbers of outcomes of each sort. -/
structure Counts (s : Summary) (os : List Outcome) : Prop where
  successes : s.successes.toNat = os.countP Outcome.isSuccess
  errors : s.errors.toNat = os.countP fun o => !o.isSuccess
  transportErrors : s.transportErrors.toNat = os.countP fun o => o.status?.isNone
  ordered : s.statusCounts.Ordered
  /-- A status has a count if it occurred. -/
  statuses : ∀ code, (s.statusCounts.lookup code).map UInt64.toNat =
    if .status code ∈ os then some (os.count (.status code)) else none

/-- Every outcome is a success or not. -/
theorem length_eq_successes_add (os : List Outcome) :
    os.length = os.countP Outcome.isSuccess + os.countP fun o => !o.isSuccess := by
  rw [List.length_eq_countP_add_countP Outcome.isSuccess]
  simp only [Bool.not_eq_true, Bool.decide_eq_false]

namespace Counts

variable {s : Summary} {os : List Outcome}

/-- Every outcome is either a success or an error. -/
theorem completed (h : s.Counts os) (hlen : os.length < UInt64.size) :
    s.completed.toNat = os.length := by
  rw [Summary.completed, UInt64.toNat_add, h.successes, h.errors, ← length_eq_successes_add]
  exact Nat.mod_eq_of_lt hlen

/-- A counter of the outcomes of a sort counts one more outcome, as there are words left. -/
theorem toNat_counter {n : UInt64} {p : Outcome → Bool} (hn : n.toNat = os.countP p) (o : Outcome)
    (hlen : os.length + 1 < UInt64.size) :
    (if p o then n + 1 else n).toNat = (os ++ [o]).countP p := by
  rw [List.countP_append, List.countP_singleton]
  split
  · have hle : os.countP p ≤ os.length := List.countP_le_length
    rw [UInt64.toNat_add, hn, UInt64.toNat_one]
    exact Nat.mod_eq_of_lt (Nat.lt_of_le_of_lt (Nat.succ_le_succ hle) hlen)
  · exact hn

/-- The counts by status after one more status. -/
theorem statuses_bump (h : s.Counts os) (c : UInt16) (hlen : os.length + 1 < UInt64.size)
    (code : UInt16) : ((s.statusCounts.bump c).lookup code).map UInt64.toNat =
      if .status code ∈ os ++ [Outcome.status c] then
        some ((os ++ [Outcome.status c]).count (.status code))
      else none := by
  have hs := h.statuses code
  rw [StatusCounts.lookup_bump h.ordered, List.count_append, List.count_singleton]
  by_cases hcode : code = c
  · subst hcode
    have hle : os.count (.status code) ≤ os.length := List.count_le_length
    have hprev : ((s.statusCounts.lookup code).getD 0).toNat = os.count (.status code) := by
      cases hl : s.statusCounts.lookup code with
      | none =>
        -- No count means that the status has not occurred.
        rw [hl] at hs
        have hnot : Outcome.status code ∉ os := by
          intro hmem
          rw [if_pos hmem] at hs
          cases hs
        rw [List.count_eq_zero.2 hnot]
        rfl
      | some n =>
        rw [hl] at hs
        split at hs
        · exact Option.some.inj hs
        · cases hs
    rw [if_pos rfl, if_pos (List.mem_append_right os (List.mem_singleton_self _)), if_pos
      (beq_self_eq_true _), Option.map_some, UInt64.toNat_add, hprev, UInt64.toNat_one]
    exact congrArg some (Nat.mod_eq_of_lt (Nat.lt_of_le_of_lt (Nat.succ_le_succ hle) hlen))
  · have hne : Outcome.status code ≠ .status c := fun heq => hcode (Outcome.status.inj heq)
    rw [if_neg hcode, hs]
    simp [hne, Ne.symm hcode]

/-- One more outcome is counted once more. -/
theorem record (h : s.Counts os) (o : Outcome) (hlen : os.length + 1 < UInt64.size) :
    (s.record o).Counts (os ++ [o]) := by
  have hstatus : (s.record o).statusCounts.Ordered ∧ ∀ code,
      ((s.record o).statusCounts.lookup code).map UInt64.toNat =
        if .status code ∈ os ++ [o] then some ((os ++ [o]).count (.status code)) else none := by
    rw [statusCounts_record]
    cases o with
    | status c => exact ⟨StatusCounts.bump_ordered h.ordered c, h.statuses_bump c hlen⟩
    | error reason =>
      refine ⟨h.ordered, fun code => ?_⟩
      rw [h.statuses code, List.count_append]
      simp
  refine ⟨?_, ?_, ?_, hstatus.1, hstatus.2⟩
  · rw [successes_record]
    exact toNat_counter h.successes o hlen
  · rw [errors_record]
    exact toNat_counter h.errors o hlen
  · rw [transportErrors_record]
    exact toNat_counter h.transportErrors o hlen

end Counts

/-- The tally of fewer outcomes than there are words counts each of them. -/
theorem counts_tally (total : UInt64) (now : Instant) {os : List Outcome}
    (hlen : os.length < UInt64.size) : ((start total now).tally os).Counts os := by
  induction os using List.reverseRecOn with
  | nil => exact ⟨rfl, rfl, rfl, List.Pairwise.nil, fun _ => rfl⟩
  | append_singleton os o ih =>
    rw [List.length_append, List.length_singleton] at hlen
    rw [tally_concat]
    exact (ih (by omega)).record o hlen

end Summary

end SyntheticLoad
