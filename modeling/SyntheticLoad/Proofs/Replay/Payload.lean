import SyntheticLoad.Load.Run
import SyntheticLoad.Proofs.Record.UnitSeed
import SyntheticLoad.Replay.Run

/-!
# What a replay sends

A replay makes one envelope and sends it again and again. The envelope is that of the first
unit of a load run with the same seed, as the seed of the unit 0 is that of the run
(`unitSeed_zero`); only its name may be another one (`payload_eq`).

What a sender is handed is seen by keeping a log beside its state (`Sender.logged`). The log
of a replay that comes to its end is the one envelope, as often as the plan says
(`run_logged`). A replay may also break off with a call; that it sends nothing else on its way
there is seen by exchanging the sender for one that differs on other envelopes only
(`run_congr`).
-/

namespace SyntheticLoad

open SyntheticLoad.Random Time

/-! ### The envelope -/

namespace ReplayPlan

/-- The envelope of a replay is that of the first unit, under the name of the plan. -/
theorem payload_eq (p : ReplayPlan) (seed : UInt64) (now : Instant) :
    p.payload seed now = (unitEnvelope p.selector seed 0 now).map p.rename := by
  have hgenerator : Generator.forUnit seed (UInt64.ofNat 0) now = .ofSeed seed now :=
    congrArg (Generator.ofSeed · now) (unitSeed_zero seed)
  rw [payload, unitEnvelope, hgenerator]
  cases (Generator.ofSeed seed now).envelope p.selector <;> rfl

theorem data_rename (p : ReplayPlan) (e : Envelope) : (p.rename e).data = e.data := by
  rw [rename]
  cases p.schemaName <;> rfl

theorem schemaName_rename (p : ReplayPlan) (e : Envelope) :
    (p.rename e).schemaName = p.schemaName.getD e.schemaName := by
  rw [rename]
  cases p.schemaName <;> rfl

end ReplayPlan

/-! ### The sends -/

/-- A sender with a log of the envelopes that it is handed, in order. -/
def Sender.logged {δ : Type} (d : Sender δ) : Sender (δ × List Envelope) where
  send now envelope state :=
    let (reply, σ) := d.send now envelope state.1
    (reply, σ, state.2 ++ [envelope])
  settle state := (d.settle state.1, state.2)

namespace ReplayPlan

variable {δ : Type} (p : ReplayPlan) (payload : Envelope)

/-- A send that does not break down adds its envelope to the log. -/
theorem sendOnce_logged {d : Sender δ} {number : Nat} {r r' : ReplayRun (δ × List Envelope)}
    (h : p.sendOnce d.logged payload number r = .ok r') :
    r'.sender.2 = r.sender.2 ++ [payload] := by
  rw [sendOnce] at h
  simp only [Sender.logged] at h
  split at h
  · cases h
  · cases h
    rfl

theorem sendLast_logged {d : Sender δ} (n : Nat) {r r' : ReplayRun (δ × List Envelope)}
    (h : p.sendLast d.logged payload n r = .ok r') :
    r'.sender.2 = r.sender.2 ++ List.replicate n payload := by
  induction n generalizing r with
  | zero =>
    cases h
    exact (List.append_nil _).symm
  | succ n ih =>
    rw [sendLast] at h
    cases hone : p.sendOnce d.logged payload (p.count.toNat - n) r with
    | error failure =>
      rw [hone] at h
      cases h
    | ok r₁ =>
      have hlog := p.sendOnce_logged payload hone
      rw [hone] at h
      simp only [bind, Except.bind] at h
      split at h
      · next hzero =>
        -- The last send is not followed by a pause.
        cases h
        rw [hlog, hzero]
        rfl
      · rw [ih h, List.replicate_succ, rest, hlog, List.append_assoc, List.singleton_append]

/-- Senders that do the same with the envelope go through the same sends. -/
theorem sendLast_congr {d d' : Sender δ}
    (hsend : ∀ time σ, d'.send time payload σ = d.send time payload σ)
    (hsettle : d'.settle = d.settle) (n : Nat) (r : ReplayRun δ) :
    p.sendLast d' payload n r = p.sendLast d payload n r := by
  have hone : ∀ number r, p.sendOnce d' payload number r = p.sendOnce d payload number r := by
    intro number r
    rw [sendOnce, sendOnce, hsend, hsettle]
  induction n generalizing r with
  | zero => rfl
  | succ n ih =>
    rw [sendLast, sendLast, hone]
    exact congrArg _ (funext fun r₁ => by rw [ih])

variable {payload} {seed : UInt64}

/-- Once its envelope is made, a replay is its sends. -/
theorem run_eq (clock : Span → Instant) (hpayload : p.payload seed (clock ⟨0⟩) = .ok payload)
    (d : Sender δ) (σ : δ) : p.run seed d clock σ = (do
      let r ← p.sendLast d payload p.count.toNat
        ⟨.start p.count (clock ⟨0⟩), σ, ⟨0⟩, [], [payloadNotice payload]⟩
      pure ⟨r.summary.finish r.now (clock r.now), r.sender, r.now, r.starts.reverse,
        r.notices.reverse⟩) := by
  rw [run, hpayload]
  rfl

/-- The log of a replay that comes to its end holds its envelope, as often as it is sent. -/
theorem run_logged (clock : Span → Instant) (hpayload : p.payload seed (clock ⟨0⟩) = .ok payload)
    {d : Sender δ} {σ : δ} {res : Result (δ × List Envelope)}
    (h : p.run seed d.logged clock (σ, []) = .ok res) :
    res.sender.2 = List.replicate p.count.toNat payload := by
  rw [p.run_eq clock hpayload] at h
  simp only [bind, Except.bind] at h
  split at h
  · cases h
  · next hlast =>
    cases h
    exact (p.sendLast_logged payload _ hlast).trans (List.nil_append _)

/-- A replay goes the same way with senders that do the same with its envelope. -/
theorem run_congr (clock : Span → Instant) (hpayload : p.payload seed (clock ⟨0⟩) = .ok payload)
    {d d' : Sender δ} (hsend : ∀ time σ, d'.send time payload σ = d.send time payload σ)
    (hsettle : d'.settle = d.settle) (σ : δ) :
    p.run seed d' clock σ = p.run seed d clock σ := by
  rw [p.run_eq clock hpayload, p.run_eq clock hpayload, p.sendLast_congr payload hsend hsettle]

end ReplayPlan

end SyntheticLoad
