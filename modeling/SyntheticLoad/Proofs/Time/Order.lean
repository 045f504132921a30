import Mathlib.Data.Prod.Lex
import SyntheticLoad.Time.Instant

/-!
# The order of instants

Instants are ordered by their seconds, and within a second by their nanoseconds, so that a
leap second comes after the second that it is counted with. Whole seconds are ordered as
their numbers are.
-/

namespace SyntheticLoad.Time.Instant

/-- The place of an instant in time. -/
def key (t : Instant) : ℤ ×ₗ ℕ := toLex (t.seconds, t.nanos)

theorem key_injective : Function.Injective key := by
  rintro ⟨s, n⟩ ⟨s', n'⟩ h
  obtain ⟨rfl, rfl⟩ := Prod.mk.inj (toLex_inj.1 h)
  rfl

instance : LinearOrder Instant := LinearOrder.lift' key key_injective

theorem le_iff {t t' : Instant} :
    t ≤ t' ↔ t.seconds < t'.seconds ∨ t.seconds = t'.seconds ∧ t.nanos ≤ t'.nanos :=
  Prod.Lex.toLex_le_toLex

theorem lt_iff {t t' : Instant} :
    t < t' ↔ t.seconds < t'.seconds ∨ t.seconds = t'.seconds ∧ t.nanos < t'.nanos :=
  Prod.Lex.toLex_lt_toLex

/-- An instant without its decimals. -/
def wholeSecond (t : Instant) : Instant := ⟨t.seconds, 0⟩

theorem wholeSecond_of_nanos {t : Instant} (h : t.nanos = 0) : t.wholeSecond = t := by
  rw [wholeSecond, ← h]

/-- So many days before an instant. -/
def daysBefore (t : Instant) (days : Nat) : Instant :=
  ⟨t.seconds - days * secondsPerDay, t.nanos⟩

end SyntheticLoad.Time.Instant
