import SyntheticLoad.Random.Source

/-!
# What every source gives

A statement about a draw is one about every source in every state: `Draw.Always d P`
says that whatever is read, the result of `d` has the property `P`. An attempt may
break off, so there are three statements about it: `Attempt.Always` speaks of the
results that it returns, `Attempt.Returns` says that it does return, and
`Attempt.OnlyFaults` says why it may break off.

Each of the four has a rule for every way in which draws are put together, and
draws are only ever looked at through these rules.

A draw that is made again and again returns exactly if it gives something after finitely
many times (`run_retry_eq_ok_iff`), and otherwise there is no end to it
(`run_retry_eq_error_iff`).
-/

namespace SyntheticLoad.Random

variable {σ α β : Type} {P : α → Prop} {Q : β → Prop}

/-- Every result of a draw has a property. -/
def Draw.Always (d : Draw σ α) (P : α → Prop) : Prop := ∀ s, P (d.run s).1

/-- Every result that an attempt returns has a property. -/
def Attempt.Always (d : Attempt σ α) (P : α → Prop) : Prop :=
  ∀ s a s', d.run s = .ok (a, s') → P a

/-- An attempt returns from every state. -/
def Attempt.Returns (d : Attempt σ α) : Prop := ∀ s, ∃ a s', d.run s = .ok (a, s')

/-- An attempt breaks off for certain causes only. -/
def Attempt.OnlyFaults (d : Attempt σ α) (F : Fault → Prop) : Prop :=
  ∀ s fault, d.run s = .error fault → F fault

/-! ### Draws -/

namespace Draw

/-- A draw behind another one starts where that one ends. -/
theorem run_bind_of_run {d : Draw σ α} {s s' : σ} {a : α} (h : d.run s = (a, s'))
    (f : α → Draw σ β) : (d >>= f).run s = (f a).run s' := by
  show (f (d.run s).1).run (d.run s).2 = _
  rw [h]

/-- A weaker property. -/
theorem Always.mono {d : Draw σ α} {P' : α → Prop} (h : Always d P) (hP : ∀ a, P a → P' a) :
    Always d P' := fun s => hP _ (h s)

theorem always_pure {a : α} (h : P a) : Always (pure a : Draw σ α) P := fun _ => h

theorem always_bind {d : Draw σ α} {f : α → Draw σ β} (hd : Always d P)
    (hf : ∀ a, P a → Always (f a) Q) : Always (d >>= f) Q :=
  fun s => hf _ (hd s) (d.run s).2

/-- Draws in a row: as many results as draws, each of them as a single draw gives it. -/
theorem always_times {d : Draw σ α} (hd : Always d P) (n : Nat) :
    Always (times d n) fun xs => xs.length = n ∧ ∀ x ∈ xs, P x := by
  induction n with
  | zero => exact always_pure ⟨rfl, by simp⟩
  | succ n ih =>
    refine always_bind hd fun x hx => always_bind ih fun xs hxs => always_pure ?_
    obtain ⟨hlen, hall⟩ := hxs
    exact ⟨by rw [List.length_cons, hlen], List.forall_mem_cons.2 ⟨hx, hall⟩⟩

end Draw

/-! ### Attempts -/

namespace Attempt

/-- A weaker property. -/
theorem Always.mono {d : Attempt σ α} {P' : α → Prop} (h : Always d P) (hP : ∀ a, P a → P' a) :
    Always d P' := fun s a s' hs => hP _ (h s a s' hs)

theorem always_true {d : Attempt σ α} : Always d fun _ => True := fun _ _ _ _ => trivial

theorem always_pure {a : α} (h : P a) : Always (pure a : Attempt σ α) P := by
  rintro s a' s' ⟨⟩
  exact h

theorem always_attempt {d : Draw σ α} (hd : Draw.Always d P) : Always (Draw.attempt d) P := by
  intro s a s' h
  obtain ⟨rfl, rfl⟩ := Prod.mk.inj (Except.ok.inj h)
  exact hd s

/-- A run of two attempts in a row is a run of the first and then one of the second. -/
theorem run_bind_eq_ok {d : Attempt σ α} {f : α → Attempt σ β} {s s' : σ} {b : β} :
    (d >>= f).run s = .ok (b, s') ↔
      ∃ a s₁, d.run s = .ok (a, s₁) ∧ (f a).run s₁ = .ok (b, s') := by
  rw [StateT.run_bind]
  cases h : d.run s with
  | error e => simp [bind, Except.bind]
  | ok p =>
    obtain ⟨a, s₁⟩ := p
    constructor
    · exact fun hb => ⟨a, s₁, rfl, hb⟩
    · rintro ⟨_, _, ⟨⟩, hb⟩
      exact hb

theorem always_bind {d : Attempt σ α} {f : α → Attempt σ β} (hd : Always d P)
    (hf : ∀ a, P a → Always (f a) Q) : Always (d >>= f) Q := by
  intro s b s' h
  obtain ⟨a, s₁, ha, hb⟩ := run_bind_eq_ok.1 h
  exact hf a (hd s a s₁ ha) s₁ b s' hb

theorem returns_pure (a : α) : Returns (pure a : Attempt σ α) := fun s => ⟨a, s, rfl⟩

theorem returns_attempt (d : Draw σ α) : Returns (Draw.attempt d) :=
  fun s => ⟨(d.run s).1, (d.run s).2, rfl⟩

theorem returns_bind {d : Attempt σ α} {f : α → Attempt σ β} (hd : Returns d)
    (hf : ∀ a, Returns (f a)) : Returns (d >>= f) := by
  intro s
  obtain ⟨a, s₁, ha⟩ := hd s
  obtain ⟨b, s₂, hb⟩ := hf a s₁
  exact ⟨b, s₂, run_bind_eq_ok.2 ⟨a, s₁, ha, hb⟩⟩

theorem onlyFaults_pure {F : Fault → Prop} (a : α) : OnlyFaults (pure a : Attempt σ α) F :=
  fun _ _ h => nomatch h

/-- Two attempts in a row break off where the first one does, or the second one behind it. -/
theorem onlyFaults_bind {F : Fault → Prop} {d : Attempt σ α} {f : α → Attempt σ β}
    (hd : OnlyFaults d F) (hf : ∀ a, OnlyFaults (f a) F) : OnlyFaults (d >>= f) F := by
  intro s fault h
  rw [StateT.run_bind] at h
  cases ha : d.run s with
  | error fault' =>
    rw [ha] at h
    cases h
    exact hd s _ ha
  | ok p =>
    rw [ha] at h
    exact hf p.1 p.2 fault h

end Attempt

/-! ### Draws that are made again -/

namespace Draw

/-- A draw gives something after finitely many times that it gives nothing. -/
inductive Finds (d : Draw σ (Option α)) : σ → α → σ → Prop
  | now {s s' : σ} {a : α} : d.run s = (some a, s') → Finds d s a s'
  | later {s s₁ s' : σ} {a : α} : d.run s = (none, s₁) → Finds d s₁ a s' → Finds d s a s'

variable {d : Draw σ (Option α)} {s s' : σ} {a : α}

theorem first_eq_some_iff : d.first s = some (a, s') ↔ d.Finds s a s' := by
  constructor
  · intro h
    -- What is found is found by an unfolding of the loop that ends.
    refine Draw.first.partial_correctness d (fun s r => d.Finds s r.1 r.2) ?_ s (a, s') h
    intro first ih s r hr
    split at hr
    · next b s₁ hb =>
      cases hr
      exact .now hb
    · next s₁ hnone => exact .later hnone (ih s₁ r hr)
  · intro h
    induction h with
    | now h => rw [first, h]
    | later h _ ih =>
      rw [first, h]
      exact ih

theorem run_retry (d : Draw σ (Option α)) (s : σ) :
    (retry d).run s = (d.first s).elim (.error .endless) .ok := by
  show retry d s = _
  rw [retry]
  cases d.first s <;> rfl

/-- A draw that is made again and again returns what it finds. -/
theorem run_retry_eq_ok_iff : (retry d).run s = .ok (a, s') ↔ d.Finds s a s' := by
  rw [← first_eq_some_iff, run_retry]
  cases d.first s <;> simp

/-- A draw that is made again and again does not return only if it never finds anything. -/
theorem run_retry_eq_error_iff {fault : Fault} :
    (retry d).run s = .error fault ↔ fault = .endless ∧ ∀ a s', ¬d.Finds s a s' := by
  simp only [← first_eq_some_iff, run_retry]
  cases d.first s with
  | none => simp [eq_comm]
  | some r => simp [Prod.ext_iff]

end Draw

namespace Attempt

variable {d : Draw σ (Option α)}

theorem always_retry (hd : Draw.Always d fun found => ∀ a, found = some a → P a) :
    Always (Draw.retry d) P := by
  intro s a s' h
  induction Draw.run_retry_eq_ok_iff.1 h with
  | @now s s' a hnow => exact hd s a (by rw [hnow])
  | later _ hfinds ih => exact ih (Draw.run_retry_eq_ok_iff.2 hfinds)

theorem onlyFaults_retry : OnlyFaults (Draw.retry d) (· = .endless) :=
  fun _ _ h => (Draw.run_retry_eq_error_iff.1 h).1

end Attempt

end SyntheticLoad.Random
