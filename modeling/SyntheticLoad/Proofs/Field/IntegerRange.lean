import SyntheticLoad.Field.Number
import SyntheticLoad.Proofs.Random.Uniform

/-!
# Ranges of integers are inclusive and exact

An integer of a range is its lower bound and an offset, and nothing of this wraps around,
however far apart the bounds are. Every integer of the range can be drawn, as every offset can
(`exists_run_offset`). In the range of all integers the first word is the integer itself.
-/

namespace SyntheticLoad

namespace Random

/-- Every integer between two bounds is drawn from some words. -/
theorem exists_run_intBetween {low high v : Int64} (hlow : low ≤ v) (hhigh : v ≤ high) :
    ∃ words, ((intBetween low high).run (Script.ofList words)).1 = v := by
  have hle : low ≤ high := Int64.le_trans hlow hhigh
  rcases Nat.lt_or_eq_of_le (integersBetween_le low high) with hn | hn
  · rw [Int64.le_iff_toInt_le] at hlow hhigh
    have hk : (v.toInt - low.toInt).toNat < integersBetween low high := by
      rw [integersBetween]
      omega
    have hsum : low.toInt + (v.toInt - low.toInt).toNat = v.toInt := by omega
    obtain ⟨words, hwords⟩ := exists_run_offset hn hk
    refine ⟨words, ?_⟩
    rw [intBetween_of_lt hle hn]
    show Int64.ofInt (low.toInt + ((offset .w64 _).run (Script.ofList words)).1) = v
    rw [hwords, hsum, Int64.ofInt_toInt]
  · rw [intBetween_of_all hle hn]
    exact ⟨[v.toUInt64], rfl⟩

end Random

namespace Field

open SyntheticLoad.Random

/-- **Ranges of integers are inclusive and exact.** If the bounds are in order, what is drawn
    lies between them, whatever the source reads. It is the lower bound and an offset, with
    no overflow; or the next word as it stands, if the range is that of all integers. Every
    integer of the range is drawn from some words. A range that has no room gives its lower
    bound and draws nothing. -/
theorem integers_inclusive_and_exact {σ : Type} [WordSource σ] (low high : Int64) :
    (low < high → ∀ s : σ,
      (low ≤ ((intInRange low high).run s).1 ∧ ((intInRange low high).run s).1 ≤ high) ∧
      (integersBetween low high < Width.w64.values →
        ((intInRange low high).run s).1.toInt =
          low.toInt + ((offset .w64 (integersBetween low high)).run s).1) ∧
      (integersBetween low high = Width.w64.values →
        ((intInRange low high).run s).1 = (word64.run s).1.toInt64)) ∧
    (low < high → ∀ v, low ≤ v → v ≤ high →
      ∃ words, ((intInRange low high).run (Script.ofList words)).1 = v) ∧
    (high ≤ low → ∀ s : σ, (intInRange low high).run s = (low, s)) := by
  have hdraw : ∀ {τ : Type} [WordSource τ], low < high →
      (intInRange low high : Draw τ Int64) = intBetween low high := fun hlt => by
    rw [intInRange, if_neg (Int64.not_le.2 hlt)]
  refine ⟨fun hlt s => ?_, fun hlt v hlow hhigh => ?_, fun hle s => ?_⟩
  · have hle := Int64.le_of_lt hlt
    rw [hdraw hlt]
    refine ⟨always_intBetween hle s, fun hn => ?_, fun hn => ?_⟩
    · rw [intBetween_of_lt hle hn]
      exact toInt_ofInt_add hle (always_offset _ (Nat.succ_pos _) s)
    · rw [intBetween_of_all hle hn]
      rfl
  · rw [hdraw hlt]
    exact exists_run_intBetween hlow hhigh
  · rw [intInRange, if_pos hle]
    rfl

/-- The range of all integers, which has as many as there are words, and one with more than
    half as many, either way round. -/
theorem integers_inclusive_and_exact_of_wide_ranges :
    (Int64.minValue < Int64.maxValue ∧
      integersBetween Int64.minValue Int64.maxValue = Width.w64.values ∧
      (∀ s : Script, ((intInRange Int64.minValue Int64.maxValue).run s).1 =
        (word64.run s).1.toInt64) ∧
      ∃ words, ((intInRange Int64.minValue Int64.maxValue).run (Script.ofList words)).1 =
        Int64.minValue) ∧
    (Int64.minValue < 0 ∧ integersBetween Int64.minValue 0 = 9223372036854775809 ∧
      (∀ s : Script, ((intInRange Int64.minValue 0).run s).1.toInt =
        Int64.minValue.toInt + ((offset .w64 9223372036854775809).run s).1) ∧
      ∃ words, ((intInRange Int64.minValue 0).run (Script.ofList words)).1 = 0) ∧
    ∀ s : Script, (intInRange 0 Int64.minValue).run s = (0, s) := by
  have hfull : Int64.minValue < Int64.maxValue := by decide
  have hhalf : Int64.minValue < 0 := by decide
  have hvalues : integersBetween Int64.minValue Int64.maxValue = Width.w64.values := by decide
  have hcount : integersBetween Int64.minValue 0 = 9223372036854775809 := by decide
  have full := integers_inclusive_and_exact (σ := Script) Int64.minValue Int64.maxValue
  have half := integers_inclusive_and_exact (σ := Script) Int64.minValue 0
  have swapped := integers_inclusive_and_exact (σ := Script) 0 Int64.minValue
  refine ⟨⟨hfull, hvalues, fun s => (full.1 hfull s).2.2 hvalues, ?_⟩,
    ⟨hhalf, hcount, fun s => ?_, ?_⟩, swapped.2.2 (Int64.le_of_lt hhalf)⟩
  · exact full.2.1 hfull _ (Int64.le_refl _) (Int64.le_of_lt hfull)
  · rw [← hcount]
    exact (half.1 hhalf s).2.1 (by decide)
  · exact half.2.1 hhalf _ (Int64.le_of_lt hhalf) (Int64.le_refl _)

end Field

end SyntheticLoad
