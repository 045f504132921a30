import Mathlib.Algebra.GroupWithZero.Nat
import Mathlib.Algebra.Order.BigOperators.Group.List
import Mathlib.Algebra.Order.Group.Nat
import SyntheticLoad.Proofs.Summary.Tally

/-!
# The books of a summary

A summary sorts every outcome twice, by success and by status. The two ways of counting
keep to each other (`Balances`): the successes are the counts of the statuses from 200 to
299, the errors all other counts and the outcomes without a status, and all of them together
are the outcomes that have been recorded.

What ties them is the sum of the counts of a class of statuses. A status that is counted
once more adds one to the sums of its classes (`sumWhere_bump`), as long as its count has
room; there is room as no count is larger than the sum of all (`le_sumWhere`).

Outcomes that are recorded after others add their own tally to that of the others, count
by count (`isSum_tally`).
-/

namespace SyntheticLoad

open Time

namespace StatusCounts

/-- How many outcomes are counted under the statuses of a class. -/
def sumWhere (p : UInt16 → Bool) (l : StatusCounts) : Nat :=
  ((l.filter fun e => p e.1).map fun e => e.2.toNat).sum

theorem sumWhere_cons (p : UInt16 → Bool) (c : UInt16) (n : UInt64) (l : StatusCounts) :
    sumWhere p ((c, n) :: l) = (if p c then n.toNat else 0) + sumWhere p l := by
  rw [sumWhere, List.filter_cons]
  split
  · rw [List.map_cons, List.sum_cons, sumWhere]
  · rw [Nat.zero_add, sumWhere]

/-- A status that is counted once more adds one to the sums of its classes. -/
theorem sumWhere_bump (p : UInt16 → Bool) (c : UInt16) {l : StatusCounts}
    (hroom : ∀ e ∈ l, e.2.toNat + 1 < UInt64.size) :
    (l.bump c).sumWhere p = l.sumWhere p + if p c then 1 else 0 := by
  have hone : sumWhere p [(c, 1)] = if p c then 1 else 0 := sumWhere_cons p c 1 []
  induction l with
  | nil => rw [bump, hone, sumWhere, List.filter_nil, List.map_nil, List.sum_nil, Nat.zero_add]
  | cons e rest ih =>
    obtain ⟨c', n⟩ := e
    obtain ⟨hn, hrest⟩ := List.forall_mem_cons.1 hroom
    rw [bump]
    split
    · rw [sumWhere_cons, Nat.add_comm]
      rfl
    · split
      · next heq =>
        have hsucc : (n + 1).toNat = n.toNat + 1 := by
          rw [UInt64.toNat_add, UInt64.toNat_one]
          exact Nat.mod_eq_of_lt hn
        rw [sumWhere_cons, sumWhere_cons, hsucc, heq]
        split <;> omega
      · rw [sumWhere_cons, sumWhere_cons, ih hrest, Nat.add_assoc]

/-- No count is larger than all of them together. -/
theorem le_sumWhere {l : StatusCounts} {e : UInt16 × UInt64} (he : e ∈ l) :
    e.2.toNat ≤ l.sumWhere fun _ => true := by
  rw [sumWhere, List.filter_eq_self.2 fun _ _ => rfl]
  exact List.le_sum_of_mem (List.mem_map_of_mem he)

end StatusCounts

namespace Summary

/-! ### What a record leaves alone -/

/-- The parts of a summary that no record changes. -/
theorem record_frame (s : Summary) (o : Outcome) :
    (s.record o).total = s.total ∧ (s.record o).durationMs = s.durationMs ∧
      (s.record o).startedAt = s.startedAt ∧ (s.record o).completedAt = s.completedAt := by
  cases o <;> simp only [record, countBand, countStatus] <;> split <;> exact ⟨rfl, rfl, rfl, rfl⟩

theorem tally_frame (s : Summary) (os : List Outcome) :
    (s.tally os).total = s.total ∧ (s.tally os).durationMs = s.durationMs ∧
      (s.tally os).startedAt = s.startedAt ∧ (s.tally os).completedAt = s.completedAt := by
  induction os using List.reverseRecOn with
  | nil => exact ⟨rfl, rfl, rfl, rfl⟩
  | append_singleton os o ih =>
    obtain ⟨htotal, hduration, hstarted, hcompleted⟩ := record_frame (s.tally os) o
    rw [tally_concat, htotal, hduration, hstarted, hcompleted]
    exact ih

/-! ### Sums -/

/-- The counts of a class of statuses come to the number of outcomes with such a status. -/
theorem sumWhere_tally (total : UInt64) (now : Instant) {os : List Outcome}
    (hlen : os.length < UInt64.size) (p : UInt16 → Bool) :
    ((start total now).tally os).statusCounts.sumWhere p = os.countP fun o => o.status?.any p := by
  induction os using List.reverseRecOn generalizing p with
  | nil => rfl
  | append_singleton os o ih =>
    rw [List.length_append, List.length_singleton] at hlen
    have ih := fun q => ih (by omega) q
    rw [tally_concat, statusCounts_record, List.countP_append, List.countP_singleton]
    cases o with
    | error reason => exact (ih p).trans (Nat.add_zero _).symm
    | status code =>
      refine (StatusCounts.sumWhere_bump p code fun e he => ?_).trans ?_
      · -- There are at most as many outcomes with a status as outcomes.
        have hle := StatusCounts.le_sumWhere he
        rw [ih fun _ => true] at hle
        have hcount : (os.countP fun o => o.status?.any fun _ => true) ≤ os.length :=
          List.countP_le_length
        omega
      · rw [ih p]
        rfl

/-- The books of a summary: its counters are the numbers of outcomes of each sort, and
    the two ways of counting agree. -/
structure Balances (s : Summary) (os : List Outcome) : Prop extends Counts s os where
  completed_eq : s.completed.toNat = os.length
  successes_eq : s.successes.toNat = s.statusCounts.sumWhere fun code => 200 ≤ code && code < 300
  errors_eq : s.errors.toNat = s.transportErrors.toNat +
    s.statusCounts.sumWhere fun code => !(200 ≤ code && code < 300)
  sum_eq : s.statusCounts.sumWhere (fun _ => true) + s.transportErrors.toNat = s.completed.toNat

/-- Outcomes without a status, and those with one in a class. -/
theorem countP_isNone_add (p : UInt16 → Bool) (os : List Outcome) :
    (os.countP fun o => o.status?.isNone) + (os.countP fun o => o.status?.any p) =
      os.countP fun o => o.status?.all p := by
  induction os with
  | nil => rfl
  | cons o os ih =>
    rw [List.countP_cons, List.countP_cons, List.countP_cons, ← ih]
    cases o with
    | status code =>
      show _ + 0 + (_ + if p code then 1 else 0) = _ + if p code then 1 else 0
      rw [Nat.add_zero, Nat.add_assoc]
    | error reason =>
      exact Nat.add_right_comm _ 1 _

theorem balances_tally (total : UInt64) (now : Instant) {os : List Outcome}
    (hlen : os.length < UInt64.size) : ((start total now).tally os).Balances os := by
  have hcounts := counts_tally total now hlen
  have hcompleted := hcounts.completed hlen
  have hsum := sumWhere_tally total now hlen
  refine { hcounts with
    completed_eq := hcompleted
    successes_eq := ?_
    errors_eq := ?_
    sum_eq := ?_ }
  · rw [hcounts.successes, hsum]
    exact List.countP_congr fun o _ => by rw [o.isSuccess_eq]; rfl
  · rw [hcounts.errors, hcounts.transportErrors, hsum, countP_isNone_add]
    refine List.countP_congr fun o _ => ?_
    cases o <;> rfl
  · rw [hcompleted, hcounts.transportErrors, hsum, Nat.add_comm, countP_isNone_add]
    exact List.countP_eq_length.2 fun o _ => by cases o <;> rfl

/-! ### Tallies together -/

/-- The counts of one summary are those of two others together. -/
structure IsSum (s a b : Summary) : Prop where
  successes : s.successes.toNat = a.successes.toNat + b.successes.toNat
  errors : s.errors.toNat = a.errors.toNat + b.errors.toNat
  transportErrors : s.transportErrors.toNat = a.transportErrors.toNat + b.transportErrors.toNat
  completed : s.completed.toNat = a.completed.toNat + b.completed.toNat
  ordered : s.statusCounts.Ordered
  /-- A status is counted if one of the two counts it. -/
  statuses : ∀ code, (s.statusCounts.lookup code).map UInt64.toNat =
    ((a.statusCounts.lookup code).map UInt64.toNat).merge (· + ·)
      ((b.statusCounts.lookup code).map UInt64.toNat)

/-- Outcomes that follow others add their tally to that of the others. -/
theorem isSum_tally (total : UInt64) (now : Instant) {os os' : List Outcome}
    (hlen : (os ++ os').length < UInt64.size) : ((start total now).tally (os ++ os')).IsSum
      ((start total now).tally os) ((start total now).tally os') := by
  have hsum := balances_tally total now hlen
  rw [List.length_append] at hlen
  have hos : ((start total now).tally os).Balances os := balances_tally total now (by omega)
  have hos' : ((start total now).tally os').Balances os' := balances_tally total now (by omega)
  refine {
    successes := ?_
    errors := ?_
    transportErrors := ?_
    completed := ?_
    ordered := hsum.ordered
    statuses := fun code => ?_ }
  · rw [hsum.successes, hos.successes, hos'.successes, List.countP_append]
  · rw [hsum.errors, hos.errors, hos'.errors, List.countP_append]
  · rw [hsum.transportErrors, hos.transportErrors, hos'.transportErrors, List.countP_append]
  · rw [hsum.completed_eq, hos.completed_eq, hos'.completed_eq, List.length_append]
  · rw [hsum.statuses, hos.statuses, hos'.statuses, List.count_append]
    by_cases hmem : .status code ∈ os <;> by_cases hmem' : .status code ∈ os' <;>
      simp [hmem, hmem', List.count_eq_zero_of_not_mem]

/-- **The books of a summary balance.** Let a summary start at nothing and record outcomes, of
    which there are fewer than words. Then

    * its counters are exact, and the counts by status, of which there is one for each status
      that has occurred, come to its successes and its errors;
    * its total, its duration, its start and its end are what they were, as they are after
      records of any summary;
    * the order of the outcomes does not matter;
    * outcomes that follow others add their tally to that of the others. -/
theorem summary_balances (total : UInt64) (now : Instant) :
    (∀ os : List Outcome, os.length < UInt64.size →
      ((start total now).tally os).Balances os) ∧
    (∀ (s : Summary) (os : List Outcome),
      (s.tally os).total = s.total ∧ (s.tally os).durationMs = s.durationMs ∧
        (s.tally os).startedAt = s.startedAt ∧ (s.tally os).completedAt = s.completedAt) ∧
    (∀ os os' : List Outcome, os.Perm os' →
      (start total now).tally os = (start total now).tally os') ∧
    ∀ os os' : List Outcome, (os ++ os').length < UInt64.size →
      ((start total now).tally (os ++ os')).IsSum ((start total now).tally os)
        ((start total now).tally os') :=
  ⟨fun _ hlen => balances_tally total now hlen, tally_frame, fun _ _ h => tally_perm _ h,
    fun _ _ hlen => isSum_tally total now hlen⟩

/-- Outcomes at both ends of the band of success, one without a status, and two more after
    them. -/
theorem summary_balances_at_ends :
    let now : Instant := ⟨1700000000, 0⟩
    let os : List Outcome := [.status 200, .error "refused", .status 300, .status 299, .status 199]
    let os' : List Outcome := [.error "timeout", .status 300]
    let s := (start 7 now).tally os
    let t := (start 7 now).tally (os ++ os')
    s.successes.toNat = 2 ∧ s.errors.toNat = 3 ∧ s.Balances os ∧
      (start 7 now).tally os.reverse = s ∧ t.total = 7 ∧ t.completed.toNat = 7 ∧
      t.statusCounts.lookup 300 = some 2 ∧ t.IsSum s ((start 7 now).tally os') := by
  intro now os os' s t
  obtain ⟨hbalances, hframe, hperm, hsum⟩ := summary_balances 7 now
  have hs : s.Balances os := hbalances os (by decide)
  have ht : t.Balances (os ++ os') := hbalances (os ++ os') (by decide)
  exact ⟨hs.successes, hs.errors, hs, hperm _ _ (List.reverse_perm os),
    (hframe (start 7 now) (os ++ os')).1, ht.completed_eq, by decide, hsum os os' (by decide)⟩

end Summary

end SyntheticLoad
