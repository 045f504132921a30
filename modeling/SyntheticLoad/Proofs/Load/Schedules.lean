import SyntheticLoad.Delivery.Stub
import SyntheticLoad.Proofs.Load.TurnTaking

/-!
# Load runs do not hang on their schedule

Two load runs of the same units, from the same seed and while the clock stands still, may
start, call and record in different orders, with different numbers of workers. As each
unit makes one call with an envelope that hangs on its number alone, they send the same
envelopes (`Complete.envelopes_perm`). If the answers hang on the envelopes, or on the
places of the calls in their order, the same endings come in another order, and as the
order of the records does not matter (`Summary.tally_eq_of_statuses`), both count the same
(`load_runs_agree`).

A sender that answers with success and failure in turn answers by the place of the call,
so it comes to as many successes as failures, or to one more.
-/

namespace SyntheticLoad

open SyntheticLoad.Random Time

/-! ### Answers -/

namespace History

/-- How calls end that are answered by their place in the order of calls and their envelope. -/
def answers (answer : Nat → Envelope → Ending) (hs : History) : List (Nat × Ending) :=
  hs.calls.zipIdx.map fun (call, place) => (call.unit, answer place call.envelope)

/-- Every call that ended was answered by its place in the order of calls and its envelope. -/
def Answered (answer : Nat → Envelope → Ending) (hs : History) : Prop :=
  ∀ e ∈ hs.endings, e ∈ hs.answers answer

theorem answers_units (answer : Nat → Envelope → Ending) (hs : History) :
    (hs.answers answer).map Prod.fst = hs.calls.map Call.unit := by
  rw [answers, List.map_map]
  conv_rhs => rw [← List.zipIdx_map_fst 0 hs.calls, List.map_map]
  rfl

theorem answers_concat (answer : Nat → Envelope → Ending) (hs : History) (h : Happening) :
    History.answers answer (hs ++ [h]) = hs.answers answer ++
      (h.sent?.map fun call => (call.unit, answer hs.calls.length call.envelope)).toList := by
  rw [answers, answers, calls_concat, List.zipIdx_append, List.map_append, Nat.zero_add]
  cases h.sent? <;> rfl

end History

/-- A sender that says of each call what its envelope tells answers by the envelopes. -/
theorem Sender.promised_eq_answers {δ : Type} (d : Sender δ) {f : Envelope → Ending}
    (hf : ∀ time envelope σ, (d.send time envelope σ).1.ending = f envelope) (σ : δ)
    (hs : History) : d.promised σ hs = hs.answers fun _ envelope => f envelope := by
  induction hs using List.reverseRecOn with
  | nil => rfl
  | append_singleton hs h ih =>
    rw [promised_concat, History.answers_concat, ih]
    cases h with
    | sent call =>
      rw [promise, hf]
      rfl
    | spawned unit => rfl
    | ended unit ending => rfl
    | recorded unit outcome => rfl

/-- The status that an ending counts with. -/
def Ending.status? : Ending → Option UInt16
  | .answered o => o.status?
  | .broken _ => none

theorem status?_recordOf (e : Nat × Ending) : (recordOf e).2.status? = e.2.status? := by
  obtain ⟨unit, ending⟩ := e
  cases ending <;> rfl

/-! ### Complete courses -/

/-- The numbers that a summary comes to, leaving time aside. -/
structure Summary.SameCounts (s s' : Summary) : Prop where
  total : s.total = s'.total
  successes : s.successes = s'.successes
  errors : s.errors = s'.errors
  transportErrors : s.transportErrors = s'.transportErrors
  statusCounts : s.statusCounts = s'.statusCounts

section

variable {plan plan' : LoadPlan} {seed : UInt64} {clock : Span → Instant} {now : Instant}
  {hs hs' : History} {p p' : Pool}

/-- The envelopes of a complete course are those of its units, if the clock stands still. -/
theorem Complete.map_envelopes (h : Complete plan seed (fun _ => now) hs p) :
    ((hs.calls.map Call.envelope).map Except.ok).Perm
      ((List.range plan.total.toNat).map fun unit =>
        unitEnvelope plan.selector seed unit now) := by
  have heq : (hs.calls.map Call.envelope).map Except.ok =
      (hs.calls.map Call.unit).map fun unit => unitEnvelope plan.selector seed unit now := by
    rw [List.map_map, List.map_map]
    exact List.map_congr_left fun call hcall => (h.envelopes call hcall).symm
  rw [heq]
  exact h.calls.map _

/-- Two complete courses of the same units send the same envelopes. -/
theorem Complete.envelopes_perm (h : Complete plan seed (fun _ => now) hs p)
    (h' : Complete plan' seed (fun _ => now) hs' p') (htotal : plan'.total = plan.total)
    (hselector : plan'.selector = plan.selector) :
    (hs.calls.map Call.envelope).Perm (hs'.calls.map Call.envelope) := by
  have hmap := h'.map_envelopes
  rw [htotal, hselector] at hmap
  have hinj : Function.Injective (Except.ok : Envelope → Except Fault Envelope) :=
    fun _ _ heq => Except.ok.inj heq
  exact (List.map_perm_map_iff hinj).1 (h.map_envelopes.trans hmap.symm)

/-- The statuses that are recorded in a complete course are those of its endings. -/
theorem Complete.statuses_perm (h : Complete plan seed clock hs p) :
    ((hs.records.map Prod.snd).map Outcome.status?).Perm
      (hs.endings.map fun e => e.2.status?) := by
  rw [List.map_map]
  refine (h.records.map (Outcome.status? ∘ Prod.snd)).trans ?_
  rw [List.map_map]
  exact List.Perm.of_eq (List.map_congr_left fun e _ => status?_recordOf e)

/-- How the calls of a complete course are answered says with which statuses they count. -/
theorem Complete.answered_statuses (h : Complete plan seed clock hs p)
    {answer : Nat → Envelope → Ending} (hanswered : hs.Answered answer) :
    (hs.endings.map fun e => e.2.status?).Perm
      (hs.calls.zipIdx.map fun c => (answer c.2 c.1.envelope).status?) := by
  have hperm := (h.endings_perm (hs.answers_units answer) hanswered).map fun e => e.2.status?
  rw [History.answers, List.map_map] at hperm
  exact hperm

/-- The statuses of a complete course in which the answers are given by the envelopes. -/
theorem Complete.statuses_by_envelope (h : Complete plan seed clock hs p) {f : Envelope → Ending}
    (hf : hs.Answered fun _ envelope => f envelope) :
    (hs.endings.map fun e => e.2.status?).Perm
      ((hs.calls.map Call.envelope).map fun envelope => (f envelope).status?) := by
  have hperm := h.answered_statuses hf
  rw [List.map_map]
  conv_rhs => rw [← List.zipIdx_map_fst 0 hs.calls, List.map_map]
  exact hperm

/-- The statuses of a complete course in which the answers are given in the order of the calls:
    there are as many places as units. -/
theorem Complete.statuses_by_place (h : Complete plan seed clock hs p) {f : Nat → Ending}
    (hf : hs.Answered fun place _ => f place) :
    (hs.endings.map fun e => e.2.status?).Perm
      ((List.range plan.total.toNat).map fun place => (f place).status?) := by
  have hlen := h.calls.length_eq
  rw [List.length_map, List.length_range] at hlen
  have hperm := h.answered_statuses hf
  rw [← hlen, List.range_eq_range', ← List.zipIdx_map_snd 0 hs.calls, List.map_map]
  exact hperm

/-- Complete courses whose endings count with the same statuses come to the same numbers. -/
theorem Course.sameCounts (hc : Course plan seed (fun _ => now) hs p)
    (hc' : Course plan' seed (fun _ => now) hs' p') (h : Complete plan seed (fun _ => now) hs p)
    (h' : Complete plan' seed (fun _ => now) hs' p') (htotal : plan'.total = plan.total)
    (hperm : (hs.endings.map fun e => e.2.status?).Perm (hs'.endings.map fun e => e.2.status?)) :
    p.summary.SameCounts p'.summary := by
  have hstatuses := (h.statuses_perm.trans hperm).trans h'.statuses_perm.symm
  have heq : p.summary = p'.summary := by
    rw [hc.account.summary, hc'.account.summary, htotal]
    exact Summary.tally_eq_of_statuses _ hstatuses
  rw [heq]
  exact ⟨rfl, rfl, rfl, rfl, rfl⟩

end

/-! ### Answers in turn -/

/-- A sender that answers in turn answers by the place of the call. -/
theorem Stub.alternating_promised (hs : History) :
    Stub.alternating.after 0 hs = hs.calls.length ∧
      Stub.alternating.promised 0 hs =
        hs.answers fun place _ => .answered (.status (Stub.alternatingStatus place)) := by
  induction hs using List.reverseRecOn with
  | nil => exact ⟨rfl, rfl⟩
  | append_singleton hs h ih =>
    obtain ⟨hafter, hpromised⟩ := ih
    rw [Sender.after_concat, Sender.promised_concat, hafter, hpromised, History.answers_concat,
      History.calls_concat, List.length_append]
    cases h <;> exact ⟨rfl, rfl⟩

/-- Half of the first places are even, and one more if their number is odd. -/
theorem countP_even_range (n : Nat) :
    ((List.range n).countP fun k => Outcome.isSuccessCode (Stub.alternatingStatus k)) =
      (n + 1) / 2 := by
  induction n with
  | zero => rfl
  | succ n ih =>
    rw [List.range_succ, List.countP_append, ih, List.countP_singleton]
    rcases Nat.mod_two_eq_zero_or_one n with heven | hodd
    · have hsuccess : Outcome.isSuccessCode (Stub.alternatingStatus n) = true := by
        rw [Stub.alternatingStatus, if_pos heven]
        decide
      rw [if_pos hsuccess]
      omega
    · have hfailure : ¬Outcome.isSuccessCode (Stub.alternatingStatus n) = true := by
        rw [Stub.alternatingStatus, if_neg (by omega)]
        decide
      rw [if_neg hfailure]
      omega

section

variable {plan : LoadPlan} {seed : UInt64} {clock : Span → Instant} {hs : History} {p : Pool}

theorem countP_isSuccess (os : List Outcome) : os.countP Outcome.isSuccess =
    (os.map Outcome.status?).countP fun status => status.any Outcome.isSuccessCode := by
  rw [List.countP_map]
  exact congrArg (List.countP · os) (funext Outcome.isSuccess_eq)

/-- The statuses that answers in turn are recorded with, in some order. -/
theorem Complete.alternating_statuses (h : Complete plan seed clock hs p)
    (hobeyed : Stub.alternating.Obeyed 0 hs) :
    ((hs.records.map Prod.snd).map Outcome.status?).Perm
      ((List.range plan.total.toNat).map fun place => some (Stub.alternatingStatus place)) := by
  have hanswered : hs.Answered fun place _ => .answered (.status (Stub.alternatingStatus place)) :=
    fun e he => (Stub.alternating_promised hs).2 ▸ hobeyed e he
  exact h.statuses_perm.trans (h.statuses_by_place hanswered)

/-- A complete run with answers in turn has as many successes as errors, or one more. -/
theorem Course.counts_of_alternating (hc : Course plan seed clock hs p)
    (h : Complete plan seed clock hs p) (hobeyed : Stub.alternating.Obeyed 0 hs) :
    p.summary.successes.toNat = (plan.total.toNat + 1) / 2 ∧
      p.summary.errors.toNat = plan.total.toNat / 2 := by
  have hsuccesses : (hs.records.map Prod.snd).countP Outcome.isSuccess =
      (plan.total.toNat + 1) / 2 :=
    calc (hs.records.map Prod.snd).countP Outcome.isSuccess
        = ((hs.records.map Prod.snd).map Outcome.status?).countP
            fun status => status.any Outcome.isSuccessCode := countP_isSuccess _
      _ = ((List.range plan.total.toNat).map fun place =>
            some (Stub.alternatingStatus place)).countP
            fun status => status.any Outcome.isSuccessCode :=
          (h.alternating_statuses hobeyed).countP_eq _
      _ = (List.range plan.total.toNat).countP
            fun place => Outcome.isSuccessCode (Stub.alternatingStatus place) := List.countP_map
      _ = (plan.total.toNat + 1) / 2 := countP_even_range _
  have hcounts := hc.account.counts
  have hlen := Summary.length_eq_successes_add (hs.records.map Prod.snd)
  rw [List.length_map, ← hc.account.completed, h.completed, ← hcounts.errors, hsuccesses] at hlen
  refine ⟨hcounts.successes.trans hsuccesses, ?_⟩
  omega

end

/-! ### Two runs -/

/-- **What load runs send and count does not hang on their schedule.** Take two runs of the same
    units from the same seed, with as many workers as one likes each, while the clock stands
    still. In whatever order units go on, both send the same envelopes. If in both the answers
    are given by the envelopes, or in the order of the calls, both summaries come to the same
    numbers. With answers of success and failure in turn, half of the units are successes,
    rounded up, whatever the schedule and whatever the clock shows. -/
theorem load_runs_agree (plan plan' : LoadPlan) (seed : UInt64) (now : Instant)
    (htotal : plan'.total = plan.total) (hselector : plan'.selector = plan.selector) :
    (∀ (hs hs' : History) (p p' : Pool), Course plan seed (fun _ => now) hs p →
      Course plan' seed (fun _ => now) hs' p' → p.keeper plan = .leave →
      p'.keeper plan' = .leave →
        (hs.calls.map Call.envelope).Perm (hs'.calls.map Call.envelope) ∧
        (∀ f : Envelope → Ending, hs.Answered (fun _ envelope => f envelope) →
          hs'.Answered (fun _ envelope => f envelope) → p.summary.SameCounts p'.summary) ∧
        ∀ f : Nat → Ending, hs.Answered (fun place _ => f place) →
          hs'.Answered (fun place _ => f place) → p.summary.SameCounts p'.summary) ∧
    (∀ (clock : Span → Instant) (hs : History) (p : Pool), Course plan seed clock hs p →
      p.keeper plan = .leave → Stub.alternating.Obeyed 0 hs →
        p.summary.successes.toNat = (plan.total.toNat + 1) / 2 ∧
          p.summary.errors.toNat = plan.total.toNat / 2) ∧
    ∀ clock : Span → Instant, 0 < plan.concurrency → ∃ res,
      (LoadSetting.mk plan seed Stub.alternating clock).run 0 = .ok res ∧
        res.summary.successes.toNat = (plan.total.toNat + 1) / 2 ∧
          res.summary.errors.toNat = plan.total.toNat / 2 := by
  refine ⟨fun hs hs' p p' hc hc' hleave hleave' => ?_, fun clock hs p hc hleave hobeyed => ?_,
    fun clock hworkers => ?_⟩
  · have h := hc.account.complete hleave
    have h' := hc'.account.complete hleave'
    have henvelopes := h.envelopes_perm h' htotal hselector
    refine ⟨henvelopes, fun f hf hf' => ?_, fun f hf hf' => ?_⟩
    · -- The answers go with the envelopes.
      refine hc.sameCounts hc' h h' htotal ((h.statuses_by_envelope hf).trans ?_)
      exact (henvelopes.map _).trans (h'.statuses_by_envelope hf').symm
    · -- There are as many calls in both runs.
      refine hc.sameCounts hc' h h' htotal ((h.statuses_by_place hf).trans ?_)
      rw [← htotal]
      exact (h'.statuses_by_place hf').symm
  · exact hc.counts_of_alternating (hc.account.complete hleave) hobeyed
  · obtain ⟨hs, p, res, hc, hleave, hobeyed, hrun, hsummary, -⟩ :=
      exists_run (LoadSetting.mk plan seed Stub.alternating clock) 0 hworkers
    refine ⟨res, hrun, ?_⟩
    rw [hsummary]
    exact hc.counts_of_alternating (hc.account.complete hleave) hobeyed

/-- Five units, one at a time and three at a time, with the same answer to all of them and with
    answers in turn. -/
theorem load_runs_agree_of_five :
    let one : LoadPlan := .basic 5 1 .mixed
    let three : LoadPlan := .basic 5 3 .mixed
    let clock : Span → Instant := fun _ => ⟨0, 0⟩
    (∃ hs hs' p p', Course one 7 clock hs p ∧ Course three 7 clock hs' p' ∧
      (hs.calls.map Call.envelope).Perm (hs'.calls.map Call.envelope) ∧
      p.summary.SameCounts p'.summary ∧ p.summary.successes.toNat = 3) ∧
    (∃ hs hs' p p', Course one 7 clock hs p ∧ Course three 7 clock hs' p' ∧
      (Stub.fixed 503).Obeyed 0 hs ∧ (Stub.fixed 503).Obeyed 0 hs' ∧
      p.summary.SameCounts p'.summary) ∧
    ∃ res, (LoadSetting.mk one 7 Stub.alternating clock).run 0 = .ok res ∧
      res.summary.errors.toNat = 2 := by
  intro one three clock
  obtain ⟨hagree, halternating, hrun⟩ := load_runs_agree one three 7 ⟨0, 0⟩ rfl rfl
  have hturn : ∀ hs : History, Stub.alternating.Obeyed 0 hs →
      hs.Answered fun place _ => .answered (.status (Stub.alternatingStatus place)) :=
    fun hs ho e he => (Stub.alternating_promised hs).2 ▸ ho e he
  have hsame : ∀ hs : History, (Stub.fixed 503).Obeyed 0 hs →
      hs.Answered fun _ _ => .answered (.status 503) :=
    fun hs ho e he => Sender.promised_eq_answers (Stub.fixed 503) (fun _ _ _ => rfl) 0 hs ▸ ho e he
  refine ⟨?_, ?_, ?_⟩
  · obtain ⟨hs, p, -, hc, hleave, ho, -⟩ :=
      exists_run (LoadSetting.mk one 7 Stub.alternating clock) 0 (by decide)
    obtain ⟨hs', p', -, hc', hleave', ho', -⟩ :=
      exists_run (LoadSetting.mk three 7 Stub.alternating clock) 0 (by decide)
    obtain ⟨henvelopes, -, hplaces⟩ := hagree hs hs' p p' hc hc' hleave hleave'
    exact ⟨hs, hs', p, p', hc, hc', henvelopes, hplaces _ (hturn hs ho) (hturn hs' ho'),
      (halternating clock hs p hc hleave ho).1.trans (by decide)⟩
  · obtain ⟨hs, p, -, hc, hleave, ho, -⟩ :=
      exists_run (LoadSetting.mk one 7 (Stub.fixed 503) clock) 0 (by decide)
    obtain ⟨hs', p', -, hc', hleave', ho', -⟩ :=
      exists_run (LoadSetting.mk three 7 (Stub.fixed 503) clock) 0 (by decide)
    obtain ⟨-, henvelopes, -⟩ := hagree hs hs' p p' hc hc' hleave hleave'
    exact ⟨hs, hs', p, p', hc, hc', ho, ho', henvelopes _ (hsame hs ho) (hsame hs' ho')⟩
  · obtain ⟨res, hres, -, herrors⟩ := hrun clock (by decide)
    exact ⟨res, hres, herrors.trans (by decide)⟩

end SyntheticLoad
