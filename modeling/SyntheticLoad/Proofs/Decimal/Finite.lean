import SyntheticLoad.Decimal.Binary

/-!
# Finite floats

The bits of a float are read as a finite number exactly if the float is finite
(`ofBits_of_isFinite`, `ofBits_of_not_isFinite`). Which it is hangs on the bits of its
exponent alone: they must not all be set (`isFinite_iff`).
-/

namespace SyntheticLoad.Decimal

open Float.Model

/-- The exponent of a float is in the eleven bits above those of the fraction. -/
theorem unpackExponent_toNat (x : Float) :
    (@UnpackedFloat.unpackExponent Format.binary64 x.toModel.toBits.toBitVec).toNat =
      x.toBits.toNat / fractions % exponents := by
  have hbits : x.toModel.toBits.toBitVec.toNat = x.toBits.toNat := rfl
  simp only [UnpackedFloat.unpackExponent, BitVec.toNat_cast, BitVec.extractLsb_toNat, hbits]
  rw [Nat.shiftRight_eq_div_pow]
  rfl

/-- What bits stand for is finite unless all bits of the exponent are set. -/
theorem isFinite_unpack (bits : BitVec 64) :
    (UnpackedFloat.unpack Format.binary64 bits).isFinite = true ↔
      @UnpackedFloat.unpackExponent Format.binary64 bits ≠ -1#11 := by
  show UnpackedFloat.isFinite (ite _ _ _) = true ↔ _
  by_cases hones : @UnpackedFloat.unpackExponent Format.binary64 bits = -1#11
  · rw [if_pos hones]
    refine ⟨fun hfinite => ?_, fun hne => absurd hones hne⟩
    by_cases hmantissa : @UnpackedFloat.unpackMantissa Format.binary64 bits = 0#52
    · rw [if_pos hmantissa] at hfinite
      cases hfinite
    · rw [if_neg hmantissa] at hfinite
      cases hfinite
  · rw [if_neg hones]
    refine ⟨fun _ => hones, fun _ => ?_⟩
    by_cases hzeros : @UnpackedFloat.unpackExponent Format.binary64 bits = 0#11
    · rw [if_pos hzeros]
      by_cases hmantissa : @UnpackedFloat.unpackMantissa Format.binary64 bits = 0#52
      · rw [dif_pos hmantissa]
        rfl
      · rw [dif_neg hmantissa]
        rfl
    · rw [if_neg hzeros]
      rfl

/-- A float is finite unless all bits of its exponent are set. -/
theorem isFinite_iff (x : Float) :
    x.isFinite = true ↔ x.toBits.toNat / fractions % exponents ≠ exponents - 1 := by
  have hexponent :
      @UnpackedFloat.unpackExponent Format.binary64 x.toModel.toBits.toBitVec = -1#11 ↔
        x.toBits.toNat / fractions % exponents = exponents - 1 := by
    rw [← BitVec.toNat_inj, unpackExponent_toNat]
    rfl
  have hfinite : x.isFinite =
      (UnpackedFloat.unpack Format.binary64 x.toModel.toBits.toBitVec).isFinite := rfl
  rw [hfinite, isFinite_unpack, Ne, hexponent]

theorem ofBits_of_isFinite {x : Float} (h : x.isFinite = true) :
    ∃ negative b, Reading.ofBits x.toBits = .finite negative b := by
  rw [isFinite_iff] at h
  simp only [Reading.ofBits, if_neg h]
  split
  · exact ⟨_, _, rfl⟩
  · exact ⟨_, _, rfl⟩

theorem ofBits_of_not_isFinite {x : Float} (h : x.isFinite = false) :
    Reading.ofBits x.toBits = .nan ∨ ∃ negative, Reading.ofBits x.toBits = .infinite negative := by
  have hexponent : x.toBits.toNat / fractions % exponents = exponents - 1 :=
    Decidable.byContradiction fun hne => absurd ((isFinite_iff x).2 hne) (by simp [h])
  simp only [Reading.ofBits, if_pos hexponent]
  split
  · exact .inr ⟨_, rfl⟩
  · exact .inl rfl

end SyntheticLoad.Decimal
