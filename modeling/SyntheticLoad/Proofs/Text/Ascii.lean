import SyntheticLoad.Text.Blank

/-!
# Characters with small numbers

There are so few characters below a small bound that each of them can be looked at
(`of_toNat_lt`). Only letters among them have another lower case, so a text in lower case is
its own (`lower_lower`).
-/

namespace SyntheticLoad.Text

/-- What holds of each character below a bound, named by its number, holds of a character whose
    number is below the bound. -/
theorem of_toNat_lt {P : Char → Prop} {bound : Nat} (h : ∀ n < bound, P (Char.ofNat n)) {c : Char}
    (hc : c.toNat < bound) : P c := by
  have hnumber := h c.toNat hc
  rwa [Char.ofNat_toNat] at hnumber

theorem toLower_toLower (c : Char) : c.toLower.toLower = c.toLower := by
  rcases Nat.lt_or_ge c.toNat 128 with hlt | hge
  · exact of_toNat_lt (P := fun c => c.toLower.toLower = c.toLower) (by decide) hlt
  · have hstay : c.toLower = c := dif_neg fun hupper => absurd (UInt32.le_iff_toNat_le.1 hupper.2)
      (Nat.not_le.2 (Nat.lt_of_lt_of_le (by decide) hge))
    rw [hstay, hstay]

theorem lower_lower (cs : List Char) : lower (lower cs) = lower cs := by
  rw [lower, lower, List.map_map]
  exact List.map_congr_left fun c _ => toLower_toLower c

end SyntheticLoad.Text
