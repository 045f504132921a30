import Mathlib
import SyntheticLoad.Proofs.Text.Ascii
import SyntheticLoad.Proofs.Text.Trim

/-!
# Letters of two cases

Two characters are the same letter if they are equal or if they are the capital and the small
form of one of the twenty-six ASCII letters (`SameLetter`). No other character is the same as
another one, whatever its case is elsewhere. Texts that are the same but for the case of their
letters (`SameButCase`) are found in two ways, which agree: by comparing them character by
character (`equalButCase_iff`), and by comparing what they are in lower case
(`sameButCase_iff_lower_eq`).

No blank is a letter, so the blanks around a text do not depend on its case
(`SameButCase.trim`).
-/

namespace SyntheticLoad.Text

/-! ### Characters -/

/-- A capital ASCII letter, and the same letter as a small one. -/
def IsCapitalOf (c d : Char) : Prop := c.isUpper = true ∧ d.toNat = c.toNat + 32

/-- Two characters are equal but for the case of ASCII letters. -/
def SameLetter (c d : Char) : Prop := c = d ∨ IsCapitalOf c d ∨ IsCapitalOf d c

instance : DecidableRel SameLetter := fun c d =>
  inferInstanceAs (Decidable (c = d ∨ (c.isUpper = true ∧ d.toNat = c.toNat + 32) ∨
    (d.isUpper = true ∧ c.toNat = d.toNat + 32)))

/-- The numbers of the capital letters. -/
theorem toNat_of_isUpper {c : Char} (h : c.isUpper = true) : 65 ≤ c.toNat ∧ c.toNat ≤ 90 := by
  simp only [Char.isUpper, ge_iff_le, Bool.decide_and, Bool.and_eq_true, decide_eq_true_eq,
    UInt32.le_iff_toNat_le] at h
  exact h

theorem toNat_toLower {c : Char} (h : c.isUpper = true) : c.toLower.toNat = c.toNat + 32 := by
  have hbounds := toNat_of_isUpper h
  rw [Char.toLower_eq_of_isUpper h, Char.toNat_ofNat, if_pos (.inl (by omega))]

/-- A capital letter goes with a character that is none if both are the same in lower case. -/
theorem isCapitalOf_iff {c d : Char} :
    IsCapitalOf c d ↔ c.isUpper = true ∧ d.isUpper = false ∧ c.toLower = d.toLower := by
  constructor
  · rintro ⟨hc, hd⟩
    have hsmall : d.isUpper = false := by
      refine Bool.eq_false_iff.2 fun hupper => ?_
      have hbounds := toNat_of_isUpper hc
      have hbounds' := toNat_of_isUpper hupper
      omega
    refine ⟨hc, hsmall, Char.toNat_inj.1 ?_⟩
    rw [Char.toLower_eq_of_not_isUpper (Bool.eq_false_iff.1 hsmall), toNat_toLower hc, hd]
  · rintro ⟨hc, hd, heq⟩
    rw [Char.toLower_eq_of_not_isUpper (Bool.eq_false_iff.1 hd)] at heq
    exact ⟨hc, heq ▸ toNat_toLower hc⟩

/-- Two characters are the same letter if they are equal in lower case. -/
theorem toLower_eq_toLower_iff {c d : Char} : c.toLower = d.toLower ↔ SameLetter c d := by
  constructor
  · intro heq
    cases hc : c.isUpper <;> cases hd : d.isUpper
    case false.false =>
      rw [Char.toLower_eq_of_not_isUpper (Bool.eq_false_iff.1 hc),
        Char.toLower_eq_of_not_isUpper (Bool.eq_false_iff.1 hd)] at heq
      exact .inl heq
    case false.true => exact .inr (.inr (isCapitalOf_iff.2 ⟨hd, hc, heq.symm⟩))
    case true.false => exact .inr (.inl (isCapitalOf_iff.2 ⟨hc, hd, heq⟩))
    case true.true =>
      have hnumbers := congrArg Char.toNat heq
      rw [toNat_toLower hc, toNat_toLower hd, Nat.add_right_cancel_iff] at hnumbers
      exact .inl (Char.toNat_inj.1 hnumbers)
  · rintro (rfl | hcapital | hcapital)
    · rfl
    · exact (isCapitalOf_iff.1 hcapital).2.2
    · exact (isCapitalOf_iff.1 hcapital).2.2.symm

/-- The Kelvin sign is no capital K here, although it has the same small letter elsewhere. -/
example : ¬SameLetter '\u212a' 'k' := by decide

/-- The forms of a letter are no blanks, either of them. -/
theorem isBlank_toLower (c : Char) : isBlank c.toLower = isBlank c := by
  cases hc : c.isUpper
  · rw [Char.toLower_eq_of_not_isUpper (Bool.eq_false_iff.1 hc)]
  · have hlt : c.toNat < 128 := Nat.lt_of_le_of_lt (toNat_of_isUpper hc).2 (by decide)
    exact of_toNat_lt (P := fun c => isBlank c.toLower = isBlank c) (by decide) hlt

/-! ### Texts -/

/-- Two texts are equal but for the case of their ASCII letters: they have the same letters at
    the same places, and no others. -/
def SameButCase (cs ds : List Char) : Prop := List.Forall₂ SameLetter cs ds

variable {cs ds : List Char}

/-- Texts are the same but for case if they are equal in lower case. -/
theorem sameButCase_iff_lower_eq : SameButCase cs ds ↔ lower cs = lower ds := by
  rw [lower, lower, ← List.forall₂_eq_eq_eq, List.forall₂_map_left_iff,
    List.forall₂_map_right_iff]
  simp only [toLower_eq_toLower_iff]
  rfl

/-- Texts are the same but for case if they are found so character by character. -/
theorem equalButCase_iff : equalButCase cs ds = true ↔ SameButCase cs ds := by
  rw [equalButCase]
  induction cs generalizing ds with
  | nil => cases ds <;> simp [List.isEqv, SameButCase]
  | cons c cs ih =>
    cases ds with
    | nil => simp [List.isEqv, SameButCase]
    | cons d ds =>
      rw [List.isEqv, Bool.and_eq_true, beq_iff_eq, toLower_eq_toLower_iff, ih, SameButCase,
        SameButCase, List.forall₂_cons]

instance (cs ds : List Char) : Decidable (SameButCase cs ds) := decidable_of_iff _ equalButCase_iff

/-- What is left between the blanks is the same but for case. -/
theorem SameButCase.trim (h : SameButCase cs ds) : SameButCase (trim cs) (trim ds) := by
  have hlower (cs : List Char) : lower (Text.trim cs) = Text.trim (lower cs) :=
    (trimBy_map isBlank_toLower cs).symm
  rw [sameButCase_iff_lower_eq] at h ⊢
  rw [hlower, hlower, h]

end SyntheticLoad.Text
