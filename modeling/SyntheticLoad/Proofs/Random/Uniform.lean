import Mathlib.Data.List.GetD
import SyntheticLoad.Proofs.Random.Always
import SyntheticLoad.Random.Script
import SyntheticLoad.Random.Uniform

/-!
# Bounds of uniform draws

An offset below `n` is below `n` whatever words are read: the high half of a product
with a word is, and the carry out of the second word comes only when there is room
for it (`succ_div_lt_of_carry`). All ranges inherit their bounds from this.

Integers are drawn by the arithmetic of words, which may wrap around. For a range that is
not that of all integers it never does: an integer is the lower bound and an offset in whole
numbers (`intBetween_of_lt`), and in the range of all integers nothing is added at all
(`intBetween_of_all`).
-/

namespace SyntheticLoad.Random

variable {σ : Type} [WordSource σ]

theorem always_raw (w : Width) : Draw.Always (raw w : Draw σ Nat) (· < w.values) := by
  cases w with
  | w32 => exact fun s => (word32.run s).1.toNat_lt
  | w64 => exact fun s => (word64.run s).1.toNat_lt
  | w128 =>
    intro s
    have hl := (word64.run s).1.toNat_lt
    have hh := (word64.run (word64.run s).2).1.toNat_lt
    show (word64.run s).1.toNat + Width.w64.values * (word64.run (word64.run s).2).1.toNat < _
    simp only [Width.values]
    omega

/-- The high half of the product with a word is below the factor. -/
theorem div_lt_of_lt {v n d : Nat} (hn : 0 < n) (hd : d < v) : d * n / v < n :=
  Nat.div_lt_of_lt_mul (Nat.mul_lt_mul_of_pos_right hd hn)

/-- If the low half of the product and the high half of a second one overflow, the
    high half has room for one more. -/
theorem succ_div_lt_of_carry {v n d d' : Nat} (hn : 0 < n) (hd : d < v) (hd' : d' < v)
    (hc : v ≤ d * n % v + d' * n / v) : d * n / v + 1 < n := by
  -- Without room the low half is at most `v - n`, and what is added to it is below `n`.
  refine Nat.lt_of_not_le fun hle => ?_
  have hq' : d' * n / v < n := div_lt_of_lt hn hd'
  have hsum : v * (d * n / v) + d * n % v = d * n := Nat.div_add_mod _ _
  have htop : v * n ≤ v * (d * n / v + 1) := Nat.mul_le_mul_left v hle
  have hdn : (d + 1) * n ≤ v * n := Nat.mul_le_mul_right n hd
  rw [Nat.mul_add, Nat.mul_one] at htop
  rw [Nat.add_mul, Nat.one_mul] at hdn
  omega

/-- A uniform number below `n` is below `n`. -/
theorem always_offset (w : Width) {n : Nat} (hn : 0 < n) :
    Draw.Always (offset w n : Draw σ Nat) (· < n) := by
  unfold offset
  split
  · next h => exact h ▸ always_raw w
  refine Draw.always_bind (always_raw w) fun d hd => ?_
  dsimp only
  split
  · -- A second word is read only here, and adds one only on a carry.
    refine Draw.always_bind (always_raw w) fun d' hd' => ?_
    split
    · next hc => exact Draw.always_pure (succ_div_lt_of_carry hn hd hd' hc)
    · exact Draw.always_pure (div_lt_of_lt hn hd)
  · exact Draw.always_pure (div_lt_of_lt hn hd)

/-- A size between two bounds lies between them. -/
theorem always_sizeBetween {low high : Nat} (h : low ≤ high) :
    Draw.Always (sizeBetween low high : Draw σ Nat) fun k => low ≤ k ∧ k ≤ high := by
  refine Draw.always_bind (always_offset _ (Nat.succ_pos _)) fun k hk => Draw.always_pure ?_
  omega

/-- What is picked from a list is a member of it. -/
theorem always_pick {α : Type} (x : α) (xs : List α) :
    Draw.Always (pick x xs : Draw σ α) (· ∈ x :: xs) := by
  refine Draw.always_bind (always_sizeBetween (Nat.zero_le _)) fun i hi => Draw.always_pure ?_
  have hlt : i < (x :: xs).length := Nat.lt_succ_of_le hi.2
  rw [List.getD_eq_getElem _ _ hlt]
  exact List.getElem_mem hlt

/-! ### What can be drawn -/

/-- Every number below `n` is the high half of the product of `n` and a word. -/
theorem exists_word {v n k : Nat} (hn : n ≤ v) (hk : k < n) : ∃ d < v, d * n / v = k := by
  -- The least word whose product reaches `k * v` exceeds it by less than `n`.
  obtain ⟨d, hreach, hbelow⟩ : ∃ d, k * v ≤ d * n ∧ d * n < k * v + n := by
    have hmod : (k * v + (n - 1)) % n < n := Nat.mod_lt _ (Nat.zero_lt_of_lt hk)
    have hsplit := Nat.div_add_mod' (k * v + (n - 1)) n
    exact ⟨(k * v + (n - 1)) / n, by omega, by omega⟩
  have hnext : k * v + v = (k + 1) * v := (Nat.succ_mul k v).symm
  refine ⟨d, Nat.lt_of_mul_lt_mul_right (a := n) ?_, Nat.div_eq_of_lt_le hreach (by omega)⟩
  calc d * n < (k + 1) * v := by omega
    _ ≤ n * v := Nat.mul_le_mul_right v hk
    _ = v * n := Nat.mul_comm n v

/-- Every raw value is drawn from some words, with a raw value of zero behind it. -/
theorem exists_run_raw (w : Width) {d : Nat} (hd : d < w.values) : ∃ words s s',
    (raw w).run (Script.ofList words) = (d, s) ∧ (raw w).run s = (0, s') := by
  cases w with
  | w32 =>
    have hword : (UInt64.ofNat d).toUInt32.toNat = d := by
      rw [UInt64.toNat_toUInt32, UInt64.toNat_ofNat', Nat.mod_mod_of_dvd _ (by decide)]
      exact Nat.mod_eq_of_lt hd
    exact ⟨[UInt64.ofNat d, 0], _, _, Prod.ext hword rfl, rfl⟩
  | w64 =>
    have hword : (UInt64.ofNat d).toNat = d := UInt64.toNat_ofNat_of_lt' hd
    exact ⟨[UInt64.ofNat d, 0], _, _, Prod.ext hword rfl, rfl⟩
  | w128 =>
    -- The low half comes first.
    have hlow : d % Width.w64.values < Width.w64.values := Nat.mod_lt d (by decide)
    have hhigh : d / Width.w64.values < Width.w64.values := Nat.div_lt_of_lt_mul hd
    have hwords : (UInt64.ofNat (d % Width.w64.values)).toNat +
        Width.w64.values * (UInt64.ofNat (d / Width.w64.values)).toNat = d := by
      rw [UInt64.toNat_ofNat_of_lt' hlow, UInt64.toNat_ofNat_of_lt' hhigh, Nat.mod_add_div]
    exact ⟨[UInt64.ofNat (d % Width.w64.values), UInt64.ofNat (d / Width.w64.values), 0, 0], _, _,
      Prod.ext hwords rfl, rfl⟩

section

variable {w : Width} {n : Nat} (hn : n < w.values)

include hn

/-- A second draw of zero carries nothing: the offset is the high half of the product with the
    first one. -/
theorem run_offset_of_zero {s s' s'' : σ} {d : Nat} (hfirst : (raw w).run s = (d, s'))
    (hsecond : (raw w).run s' = (0, s'')) : ((offset w n).run s).1 = d * n / w.values := by
  have hcarry : ¬w.values ≤ d * n % w.values + 0 * n / w.values := by
    rw [Nat.zero_mul, Nat.zero_div, Nat.not_le]
    exact Nat.mod_lt _ (Nat.zero_lt_of_lt hn)
  rw [offset, if_neg (Nat.ne_of_lt hn), Draw.run_bind_of_run hfirst]
  dsimp only
  split
  · rw [Draw.run_bind_of_run hsecond, if_neg hcarry]
    rfl
  · rfl

/-- Every offset below `n` is drawn from some words. -/
theorem exists_run_offset {k : Nat} (hk : k < n) :
    ∃ words, ((offset w n).run (Script.ofList words)).1 = k := by
  obtain ⟨d, hd, hdk⟩ := exists_word (Nat.le_of_lt hn) hk
  obtain ⟨words, s, s', hfirst, hsecond⟩ := exists_run_raw w hd
  exact ⟨words, (run_offset_of_zero hn hfirst hsecond).trans hdk⟩

end

/-! ### The arithmetic of words -/

@[simp]
theorem toNat_mulHigh (a b : UInt64) :
    (mulHigh a b).toNat = a.toNat * b.toNat / Width.w64.values := by
  have hlt : a.toNat * b.toNat / Width.w64.values < Width.w64.values :=
    Nat.div_lt_of_lt_mul (Nat.mul_lt_mul'' a.toNat_lt b.toNat_lt)
  rw [mulHigh, UInt64.toNat_ofNat']
  exact Nat.mod_eq_of_lt hlt

theorem toNat_mul (a b : UInt64) : (a * b).toNat = a.toNat * b.toNat % Width.w64.values :=
  UInt64.toNat_mul a b

theorem toNat_neg_of_ne_zero {n : UInt64} (hn : n ≠ 0) :
    (-n).toNat = Width.w64.values - n.toNat := by
  have hpos : n.toNat ≠ 0 := fun h => hn (UInt64.toNat_inj.1 h)
  rw [UInt64.toNat_neg]
  exact Nat.mod_eq_of_lt (Nat.sub_lt (by decide) (Nat.pos_of_ne_zero hpos))

/-- An offset by the arithmetic of words is the offset by that of whole numbers: neither the
    bound nor the carry wraps around. -/
theorem offsetWord_eq {n : UInt64} (hn : n ≠ 0) :
    (offsetWord n : Draw σ UInt64) = (do
      let k ← offset .w64 n.toNat
      pure (UInt64.ofNat k)) := by
  have hlt : n.toNat < Width.w64.values := n.toNat_lt
  have hlow : ∀ d : UInt64, -n < d * n ↔
      Width.w64.values - n.toNat < d.toNat * n.toNat % Width.w64.values := fun d => by
    rw [UInt64.lt_iff_toNat_lt, toNat_neg_of_ne_zero hn, toNat_mul]
  rw [offsetWord, offset, if_neg (Nat.ne_of_lt hlt), raw, bind_assoc, bind_assoc]
  refine bind_congr fun d => ?_
  rw [pure_bind]
  dsimp only
  split
  · next hd =>
    rw [if_pos ((hlow d).1 hd), bind_assoc, bind_assoc]
    refine bind_congr fun d' => ?_
    rw [pure_bind, toNat_mul, toNat_mulHigh]
    split
    · rw [pure_bind, UInt64.ofNat_add]
      rfl
    · rw [pure_bind]
      rfl
  · next hd =>
    rw [if_neg (mt (hlow d).2 hd), pure_bind]
    rfl

theorem add_toInt64_ofNat (low : Int64) (k : Nat) :
    low + (UInt64.ofNat k).toInt64 = Int64.ofInt (low.toInt + k) := by
  rw [Int64.ofInt_add, Int64.ofInt_toInt]
  rfl

/-! ### Integers -/

/-- How many integers there are between two bounds that are in order, both included. -/
def integersBetween (low high : Int64) : Nat := (high.toInt - low.toInt).toNat + 1

/-- No range has more integers than there are words. -/
theorem integersBetween_le (low high : Int64) :
    integersBetween low high ≤ Width.w64.values := by
  have hlow := low.le_toInt
  have hhigh := high.toInt_lt
  simp only [integersBetween, Width.values]
  omega

/-- As a word, the number of integers wraps around if there are as many as words. -/
theorem toNat_integersBetween {low high : Int64} (h : low ≤ high) :
    (high - low + 1).toUInt64.toNat = integersBetween low high % Width.w64.values := by
  obtain ⟨n, hn⟩ := Int.eq_ofNat_of_zero_le (Int.sub_nonneg.2 (Int64.le_iff_toInt_le.1 h))
  have hspan : high - low + 1 = Int64.ofNat (n + 1) := by
    rw [← Int64.ofInt_toInt high, ← Int64.ofInt_toInt low, ← Int64.ofInt_sub, hn,
      Int64.ofNat_add]
    rfl
  rw [hspan, integersBetween, hn]
  rfl

/-- In the range of all integers a word is an integer as it stands. -/
theorem intBetween_of_all {low high : Int64} (hle : low ≤ high)
    (h : integersBetween low high = Width.w64.values) :
    (intBetween low high : Draw σ Int64) = (do
      let w ← word64
      pure w.toInt64) := by
  have hn : (high - low + 1).toUInt64 = 0 := by
    rw [← UInt64.toNat_inj, toNat_integersBetween hle, h, Nat.mod_self]
    rfl
  rw [intBetween, if_pos hn]

/-- In any other range an integer is the lower bound and an offset, in whole numbers. -/
theorem intBetween_of_lt {low high : Int64} (hle : low ≤ high)
    (h : integersBetween low high < Width.w64.values) :
    (intBetween low high : Draw σ Int64) = (do
      let k ← offset .w64 (integersBetween low high)
      pure (Int64.ofInt (low.toInt + k))) := by
  have hn : (high - low + 1).toUInt64.toNat = integersBetween low high := by
    rw [toNat_integersBetween hle, Nat.mod_eq_of_lt h]
  have hne : (high - low + 1).toUInt64 ≠ 0 := fun hzero => by
    rw [hzero] at hn
    exact absurd hn (Nat.succ_ne_zero _).symm
  rw [intBetween, if_neg hne, offsetWord_eq hne, hn, bind_assoc]
  exact bind_congr fun k => by rw [pure_bind, add_toInt64_ofNat]

/-- The sum of the lower bound and of an offset does not wrap around. -/
theorem toInt_ofInt_add {low high : Int64} {k : Nat} (hle : low ≤ high)
    (hk : k < integersBetween low high) : (Int64.ofInt (low.toInt + k)).toInt = low.toInt + k := by
  rw [Int64.le_iff_toInt_le] at hle
  have hlow := low.le_toInt
  have hhigh := high.toInt_lt
  rw [integersBetween] at hk
  rw [Int64.toInt_ofInt_of_le] <;> omega

/-- An integer between two bounds lies between them. -/
theorem always_intBetween {low high : Int64} (h : low ≤ high) :
    Draw.Always (intBetween low high : Draw σ Int64) fun v => low ≤ v ∧ v ≤ high := by
  have hle := Int64.le_iff_toInt_le.1 h
  rcases Nat.lt_or_eq_of_le (integersBetween_le low high) with hn | hn
  · rw [intBetween_of_lt h hn]
    refine Draw.always_bind (always_offset _ (Nat.succ_pos _)) fun k hk => Draw.always_pure ?_
    have hsum := toInt_ofInt_add h hk
    rw [integersBetween] at hk
    constructor <;> rw [Int64.le_iff_toInt_le, hsum] <;> omega
  · -- The range is that of all integers, so there is nothing to leave.
    rw [intBetween_of_all h hn]
    refine Draw.always_bind (P := fun _ => True) (fun _ => trivial) fun w _ => Draw.always_pure ?_
    have hlow := low.le_toInt
    have hhigh := high.toInt_lt
    have hwl := w.toInt64.le_toInt
    have hwh := w.toInt64.toInt_lt
    simp only [integersBetween, Width.values] at hn
    constructor <;> rw [Int64.le_iff_toInt_le] <;> omega

end SyntheticLoad.Random
