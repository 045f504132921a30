import SyntheticLoad.Proofs.Random.Always

/-!
# Attempts that agree

Two attempts agree if the one does to a source what the other does: from every state
both break off for the same reason, or both return, leave the same state behind and
come to related results (`Attempt.Agree`). So whatever the two attempts differ in, it
has an effect on their results only, and there only as far as the relation says.

As for the other statements about attempts, there is a rule for every way in which
attempts are put together.
-/

namespace SyntheticLoad.Random

variable {σ α β γ δ : Type} {R : α → β → Prop} {Q : γ → δ → Prop}

/-- From every state both attempts break off alike, or both return in the same state, with
    related results. -/
def Attempt.Agree (R : α → β → Prop) (d : Attempt σ α) (d' : Attempt σ β) : Prop :=
  ∀ s, (∃ fault, d.run s = .error fault ∧ d'.run s = .error fault) ∨
    ∃ a b s', d.run s = .ok (a, s') ∧ d'.run s = .ok (b, s') ∧ R a b

namespace Attempt

/-- A weaker relation. -/
theorem Agree.mono {R' : α → β → Prop} {d : Attempt σ α} {d' : Attempt σ β} (h : Agree R d d')
    (hR : ∀ a b, R a b → R' a b) : Agree R' d d' :=
  fun s => (h s).imp_right fun ⟨a, b, s', hs, hs', hab⟩ => ⟨a, b, s', hs, hs', hR a b hab⟩

theorem agree_pure {a : α} {b : β} (h : R a b) :
    Agree R (pure a : Attempt σ α) (pure b : Attempt σ β) :=
  fun s => .inr ⟨a, b, s, rfl, rfl, h⟩

/-- An attempt agrees with itself. -/
theorem agree_refl {R : α → α → Prop} (h : ∀ a, R a a) (d : Attempt σ α) : Agree R d d := by
  intro s
  cases hd : d.run s with
  | error fault => exact .inl ⟨fault, rfl, rfl⟩
  | ok p => exact .inr ⟨p.1, p.1, p.2, rfl, rfl, h p.1⟩

theorem run_bind_eq_error {d : Attempt σ α} {f : α → Attempt σ γ} {s : σ} {fault : Fault}
    (h : d.run s = .error fault) : (d >>= f).run s = .error fault := by
  rw [StateT.run_bind, h]
  rfl

theorem run_bind_of_ok {d : Attempt σ α} {f : α → Attempt σ γ} {s s' : σ} {a : α}
    (h : d.run s = .ok (a, s')) : (d >>= f).run s = (f a).run s' := by
  rw [StateT.run_bind, h]
  rfl

theorem agree_bind {d : Attempt σ α} {d' : Attempt σ β} {f : α → Attempt σ γ}
    {f' : β → Attempt σ δ} (hd : Agree R d d') (hf : ∀ a b, R a b → Agree Q (f a) (f' b)) :
    Agree Q (d >>= f) (d' >>= f') := by
  intro s
  rcases hd s with ⟨fault, hs, hs'⟩ | ⟨a, b, s₁, hs, hs', hab⟩
  · exact .inl ⟨fault, run_bind_eq_error hs, run_bind_eq_error hs'⟩
  · rw [run_bind_of_ok hs, run_bind_of_ok hs']
    exact hf a b hab s₁

/-- The same attempt, followed by attempts that agree whatever it comes to. -/
theorem agree_bind_self {d : Attempt σ α} {f : α → Attempt σ γ} {f' : α → Attempt σ δ}
    (hf : ∀ a, Agree Q (f a) (f' a)) : Agree Q (d >>= f) (d >>= f') :=
  agree_bind (agree_refl (R := Eq) (fun _ => rfl) d) fun a _ hab => hab ▸ hf a

/-- The same draw, of which different things are made. -/
theorem agree_attempt {P : γ → Prop} {d : Draw σ γ} (hd : Draw.Always d P) {f : γ → α}
    {g : γ → β} (h : ∀ c, P c → R (f c) (g c)) :
    Agree R (Draw.attempt (do let c ← d; pure (f c))) (Draw.attempt (do let c ← d; pure (g c))) :=
  fun s => .inr ⟨f (d.run s).1, g (d.run s).1, (d.run s).2, rfl, rfl, h _ (hd s)⟩

/-- Attempts that agree return from the same states. -/
theorem Agree.exists_run {d : Attempt σ α} {d' : Attempt σ β} (h : Agree R d d')
    (hd : d.Returns) (s : σ) :
    ∃ a b s', d.run s = .ok (a, s') ∧ d'.run s = .ok (b, s') ∧ R a b := by
  rcases h s with ⟨fault, hs, -⟩ | hok
  · obtain ⟨a, s', ha⟩ := hd s
    rw [hs] at ha
    cases ha
  · exact hok

end Attempt

end SyntheticLoad.Random
