import Mathlib.Data.Int.ModEq
import Mathlib.Data.List.Nodup
import Mathlib.Tactic.Ring
import SyntheticLoad.Record.Generator

/-!
# Seeds of units

The seed of a unit is that of the run, moved on by as many strides as the number of the unit
says. The stride is odd, hence a unit of the words: there is a word that it gives 1 with
(`seedStride_mul_strideInverse`), and so the number of a unit is found again from its seed
(`unitNumber`). All units that there are numbers for have different seeds, and between them
they have all seeds there are.

Two runs share seeds where their own seeds lie some strides apart. How many these are is said
in whole numbers, modulo the number of words (`unitSeed_modEq`).
-/

namespace SyntheticLoad

/-! ### Numbers from seeds -/

/-- The word that the stride gives 1 with. -/
def strideInverse : UInt64 := 0xF1DE83E19937733D

theorem seedStride_mul_strideInverse : seedStride * strideInverse = 1 := by decide

/-- The number of the unit of a run that has a seed. -/
def unitNumber (seed unitSeed : UInt64) : UInt64 := (unitSeed - seed) * strideInverse

theorem unitNumber_unitSeed (seed index : UInt64) :
    unitNumber seed (unitSeed seed index) = index := by
  rw [unitNumber, unitSeed, UInt64.add_comm, UInt64.add_sub_cancel, UInt64.mul_assoc,
    seedStride_mul_strideInverse, UInt64.mul_one]

theorem unitSeed_unitNumber (seed s : UInt64) : unitSeed seed (unitNumber seed s) = s := by
  rw [unitSeed, unitNumber, UInt64.mul_assoc, UInt64.mul_comm strideInverse,
    seedStride_mul_strideInverse, UInt64.mul_one, UInt64.add_comm, UInt64.sub_add_cancel]

theorem unitSeed_bijective (seed : UInt64) : Function.Bijective (unitSeed seed) :=
  Function.bijective_iff_has_inverse.2
    ⟨unitNumber seed, unitNumber_unitSeed seed, unitSeed_unitNumber seed⟩

/-- As long as there are words to number the units, they have different seeds. -/
theorem nodup_unitSeeds (seed : UInt64) {n : Nat} (hn : n ≤ 2 ^ 64) :
    ((List.range n).map fun unit => unitSeed seed (UInt64.ofNat unit)).Nodup := by
  refine List.Nodup.map_on (fun i hi j hj heq => ?_) List.nodup_range
  have hnumber := congrArg UInt64.toNat ((unitSeed_bijective seed).injective heq)
  rwa [UInt64.toNat_ofNat_of_lt' (Nat.lt_of_lt_of_le (List.mem_range.1 hi) hn),
    UInt64.toNat_ofNat_of_lt' (Nat.lt_of_lt_of_le (List.mem_range.1 hj) hn)] at hnumber

/-! ### Units of units -/

/-- The first unit of a run has the seed of the run. -/
theorem unitSeed_zero (seed : UInt64) : unitSeed seed 0 = seed := by
  rw [unitSeed, UInt64.zero_mul, UInt64.add_zero]

/-- A run with the seed of a unit goes on with the seeds from that unit on. -/
theorem unitSeed_unitSeed (seed i j : UInt64) :
    unitSeed (unitSeed seed i) j = unitSeed seed (i + j) := by
  rw [unitSeed, unitSeed, unitSeed, UInt64.add_mul, UInt64.add_assoc]

/-! ### Seeds of two runs -/

theorem eq_iff_modEq {a b : UInt64} : a = b ↔ (a.toNat : ℤ) ≡ b.toNat [ZMOD 2 ^ 64] := by
  refine ⟨fun h => h ▸ Int.ModEq.refl _, fun h => UInt64.toNat_inj.1 ?_⟩
  have hnat : a.toNat ≡ b.toNat [MOD 2 ^ 64] := Int.natCast_modEq_iff.1 h
  exact hnat.eq_of_lt_of_lt a.toNat_lt b.toNat_lt

/-- The seed of a unit in whole numbers. -/
theorem unitSeed_modEq (seed index : UInt64) :
    ((unitSeed seed index).toNat : ℤ) ≡
      seed.toNat + index.toNat * seedStride.toNat [ZMOD 2 ^ 64] := by
  have hnat : (unitSeed seed index).toNat ≡
      seed.toNat + index.toNat * seedStride.toNat [MOD 2 ^ 64] := by
    rw [unitSeed, UInt64.toNat_add, UInt64.toNat_mul]
    exact (Nat.mod_modEq _ _).trans ((Nat.ModEq.refl _).add (Nat.mod_modEq _ _))
  exact_mod_cast Int.natCast_modEq_iff.2 hnat

/-- Units of two runs have the same seed if the seeds of the runs are as many strides apart as
    the units, the other way. -/
theorem unitSeed_eq_iff (s t i j : UInt64) :
    unitSeed s i = unitSeed t j ↔
      (s.toNat : ℤ) - t.toNat ≡ (j.toNat - i.toNat) * seedStride.toNat [ZMOD 2 ^ 64] := by
  have hdifference : ((t.toNat : ℤ) + j.toNat * seedStride.toNat) -
        (s.toNat + i.toNat * seedStride.toNat) =
      (j.toNat - i.toNat) * seedStride.toNat - (s.toNat - t.toNat) := by ring
  calc unitSeed s i = unitSeed t j
    _ ↔ ((unitSeed s i).toNat : ℤ) ≡ (unitSeed t j).toNat [ZMOD 2 ^ 64] := eq_iff_modEq
    _ ↔ (s.toNat : ℤ) + i.toNat * seedStride.toNat ≡
          t.toNat + j.toNat * seedStride.toNat [ZMOD 2 ^ 64] :=
        ⟨fun h => (unitSeed_modEq s i).symm.trans (h.trans (unitSeed_modEq t j)),
          fun h => (unitSeed_modEq s i).trans (h.trans (unitSeed_modEq t j).symm)⟩
    _ ↔ _ := by rw [Int.modEq_iff_dvd, Int.modEq_iff_dvd, hdifference]

/-- **No two units of a run share a seed.** The seeds of the units of a run, in the order of
    their numbers, are all the words there are, each once. The first is that of the run, and a
    run with the seed of a unit goes on from there. Units of different runs have the same
    seed just if the difference of the seeds of the runs is as many strides as there are from
    the one unit to the other, modulo the number of words. -/
theorem unit_seeds_never_collide :
    (∀ seed, Function.Bijective (unitSeed seed)) ∧
    (∀ (seed : UInt64) (n : Nat), n ≤ 2 ^ 64 →
      ((List.range n).map fun unit => unitSeed seed (UInt64.ofNat unit)).Nodup) ∧
    (∀ seed, unitSeed seed 0 = seed) ∧
    (∀ seed i j, unitSeed (unitSeed seed i) j =
      unitSeed seed (UInt64.ofNat ((i.toNat + j.toNat) % 2 ^ 64))) ∧
    ∀ s t i j, unitSeed s i = unitSeed t j ↔
      (s.toNat : ℤ) - t.toNat ≡ (j.toNat - i.toNat) * 0x9E3779B97F4A7C15 [ZMOD 2 ^ 64] := by
  refine ⟨unitSeed_bijective, fun seed n => nodup_unitSeeds seed, unitSeed_zero,
    fun seed i j => ?_, unitSeed_eq_iff⟩
  rw [← UInt64.toNat_add, UInt64.ofNat_toNat, unitSeed_unitSeed]

/-- The seeds of three units, and of a unit that two runs share. -/
theorem unit_seeds_never_collide_of_three :
    ((List.range 3).map fun unit => unitSeed 7 (UInt64.ofNat unit)).Nodup ∧
      unitSeed (7 + seedStride) 4 = unitSeed 7 5 := by
  obtain ⟨-, hnodup, -, -, hshared⟩ := unit_seeds_never_collide
  exact ⟨hnodup 7 3 (by decide), (hshared _ _ _ _).2 (by decide)⟩

end SyntheticLoad
