import SyntheticLoad.Delivery.Stub
import SyntheticLoad.Proofs.Load.TurnTaking

/-!
# A load run serves every unit once

Whatever the sender answers, and in whatever order the units go on, a load run with
workers ends after every unit has been started, has made its call with its own envelope,
and has been recorded, each of them once. It cannot hang, as something can happen until
the keeper leaves and no more than four things happen to a unit. Without workers a run
is refused, and nothing happens at all.
-/

namespace SyntheticLoad

open SyntheticLoad.Random Time

/-- **A load run serves every unit exactly once.** A run without workers is refused, and no
    call is made. A run with workers returns what its pool and its sender have come to when
    the keeper leaves, each call having ended as the sender said. And in every course that a
    run with workers can take, whatever its calls come to:

    * there are no more than four happenings for each unit, the counters count exactly, and
      the keeper never gives up;
    * until the keeper leaves, something can happen;
    * when it leaves, the course is complete, with each answer recorded as it is and each
      breakdown as an error, and nothing more can happen. -/
theorem load_run_exactly_once {δ : Type} (s : LoadSetting δ) (σ : δ) :
    (s.plan.concurrency = 0 → s.run σ = .error .noWorkers ∧
      ∀ hs p, Course s.plan s.seed s.clock hs p → hs = []) ∧
    (0 < s.plan.concurrency →
      (∃ hs p res, Course s.plan s.seed s.clock hs p ∧ p.keeper s.plan = .leave ∧
        hs.endings.Perm (s.sender.promised σ hs) ∧ s.run σ = .ok res ∧
        res.summary = p.summary.finish res.length (s.clock res.length) ∧
        res.sender = s.sender.after σ hs) ∧
      ∀ hs p, Course s.plan s.seed s.clock hs p →
        hs.length ≤ 4 * s.plan.total.toNat ∧ p.next ≤ s.plan.total.toNat ∧
        p.summary.Counts (hs.records.map Prod.snd) ∧
        p.summary.completed.toNat = hs.records.length ∧
        p.keeper s.plan ≠ .giveUp ∧
        (p.keeper s.plan ≠ .leave → ∃ h q, Course s.plan s.seed s.clock (hs ++ [h]) q) ∧
        (p.keeper s.plan = .leave → Complete s.plan s.seed s.clock hs p ∧
          ∀ h q, ¬Course s.plan s.seed s.clock (hs ++ [h]) q)) := by
  refine ⟨fun hzero => ⟨if_pos hzero, fun hs p hc => hc.eq_nil_of_noWorkers hzero⟩,
    fun hworkers => ⟨?_, fun hs p hc => ?_⟩⟩
  · obtain ⟨hs, p, res, hc, hleave, hobeyed, hrun, hsummary, hsender⟩ := exists_run s σ hworkers
    have hendings := (hc.account.complete hleave).endings_promised hobeyed
    exact ⟨hs, p, res, hc, hleave, hendings, hrun, hsummary, hsender⟩
  · have ha := hc.account
    refine ⟨ha.length_le.1, ha.next_le, ha.counts, ha.completed, ha.keeper_ne_giveUp hworkers,
      fun hleave => ?_, fun hleave => ⟨ha.complete hleave, fun h q hq => ?_⟩⟩
    · obtain ⟨h, q, ht⟩ := ha.exists_takes hworkers hleave
      exact ⟨h, q, hc.takes ht⟩
    · -- A complete course has as many happenings as a run can have.
      have hlen := hq.account.length_le.1
      rw [List.length_append, (ha.complete hleave).length_eq, List.length_singleton] at hlen
      omega

/-- A run of three units, two at a time, in which every other call breaks down. -/
theorem load_run_exactly_once_of_breakdowns :
    let script : List Stub.Step :=
      [⟨⟨5⟩, .broken "out of memory"⟩, ⟨⟨0⟩, .answered (.status 200)⟩]
    let s : LoadSetting Stub.Seen :=
      ⟨.basic 3 2 .mixed, 7, Stub.scripted script, fun time => ⟨time.nanos, 0⟩⟩
    (∃ hs p res, Course s.plan s.seed s.clock hs p ∧ s.run [] = .ok res ∧
      Complete s.plan s.seed s.clock hs p ∧ res.summary.completed = 3) ∧
    ({ s with plan := .basic 3 0 .mixed } : LoadSetting Stub.Seen).run [] =
      .error .noWorkers := by
  intro script s
  obtain ⟨⟨hs, p, res, hc, hleave, -, hrun, hsummary, -⟩, hall⟩ :=
    (load_run_exactly_once s []).2 (by decide)
  obtain ⟨-, -, -, -, -, -, hend⟩ := hall hs p hc
  refine ⟨⟨hs, p, res, hc, hrun, (hend hleave).1, ?_⟩,
    ((load_run_exactly_once { s with plan := .basic 3 0 .mixed } []).1 rfl).1⟩
  rw [hsummary]
  exact (hend hleave).1.completed

end SyntheticLoad
