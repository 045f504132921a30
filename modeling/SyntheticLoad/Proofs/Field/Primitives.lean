import SyntheticLoad.Field.Moment
import SyntheticLoad.Field.Number
import SyntheticLoad.Field.Selection
import SyntheticLoad.Proofs.Random.Uniform

/-!
# What the primitive draws of fields give

Words have exactly the wanted length and only characters of their alphabet
(`always_letters`, `always_alphanumeric`), sizes and integers stay in their ranges,
and a recent instant is a whole second of the window that ends now
(`always_recentInstant`). All this holds whatever the source reads.
-/

namespace SyntheticLoad.Field

open SyntheticLoad.Random Time

/-- A text of so many characters, each of which is of one sort. -/
def IsWord (sort : Char → Bool) (length : Nat) (s : String) : Prop :=
  s.length = length ∧ ∀ c ∈ s.toList, sort c

/-- An instant is a whole second of the last `days` days before the second of `now`. -/
def InWindow (now : Instant) (days : UInt32) (t : Instant) : Prop :=
  t.nanos = 0 ∧ now.seconds - days.toNat * Instant.secondsPerDay ≤ t.seconds ∧
    t.seconds ≤ now.seconds

section

variable {σ : Type} [WordSource σ]

/-! ### Words -/

theorem always_fromAlphabet {sort : Char → Bool} {alphabet : List Char} (hne : alphabet ≠ [])
    (hsort : alphabet.all sort) (length : Nat) :
    Draw.Always (fromAlphabet alphabet length : Draw σ String) (IsWord sort length) := by
  cases alphabet with
  | nil => exact absurd rfl hne
  | cons c cs =>
    refine Draw.always_bind (Draw.always_times (always_pick c cs) length) fun chars h =>
      Draw.always_pure ?_
    obtain ⟨hlen, hmem⟩ := h
    refine ⟨by rw [String.length_ofList, hlen], fun c' hc' => ?_⟩
    rw [String.toList_ofList] at hc'
    exact List.all_eq_true.1 hsort c' (hmem c' hc')

/-- Letters: exactly so many, and nothing else. -/
theorem always_letters (length : Nat) :
    Draw.Always (letters length : Draw σ String) (IsWord Char.isAlpha length) :=
  always_fromAlphabet (by decide) (by decide) length

/-- Letters and digits: exactly so many, and nothing else. -/
theorem always_alphanumeric (length : Nat) :
    Draw.Always (alphanumeric length : Draw σ String) (IsWord Char.isAlphanum length) :=
  always_fromAlphabet (by decide) (by decide) length

/-! ### Sizes -/

theorem always_sizeInRange {low high : Nat} (h : low ≤ high) :
    Draw.Always (sizeInRange low high : Draw σ Nat) fun n => low ≤ n ∧ n ≤ high := by
  unfold sizeInRange
  split
  · exact Draw.always_pure ⟨Nat.le_refl low, h⟩
  · exact always_sizeBetween h

/-- A text of letters and digits whose length is in a range. -/
theorem always_alphanumericBetween {low high : Nat} (h : low ≤ high) :
    Draw.Always (alphanumericBetween low high : Draw σ String) fun s =>
      low ≤ s.length ∧ s.length ≤ high ∧ IsWord Char.isAlphanum s.length s := by
  refine Draw.always_bind (always_sizeInRange h) fun n hn => ?_
  refine (always_alphanumeric n).mono fun s hs => ?_
  rw [hs.1]
  exact ⟨hn.1, hn.2, hs⟩

/-- A list whose length is in a range, of texts that all have the same length. -/
theorem always_textList (low high length : Nat) :
    Draw.Always (textList low high length : Draw σ (List String)) fun items =>
      (low ≤ high → low ≤ items.length ∧ items.length ≤ high) ∧
        ∀ s ∈ items, IsWord Char.isAlphanum length s := by
  have hsize : Draw.Always (sizeInRange low high : Draw σ Nat)
      fun n => low ≤ high → low ≤ n ∧ n ≤ high :=
    fun s h => always_sizeInRange h s
  refine Draw.always_bind hsize fun n hn => ?_
  refine (Draw.always_times (always_alphanumeric length) n).mono fun items h => ?_
  exact ⟨fun hle => h.1 ▸ hn hle, h.2⟩

/-! ### Numbers -/

/-- An integer of a range lies in it. -/
theorem always_intInRange (low high : Int64) :
    Draw.Always (intInRange low high : Draw σ Int64) fun n =>
      low ≤ high → low ≤ n ∧ n ≤ high := by
  unfold intInRange
  split
  · exact Draw.always_pure fun h => ⟨Int64.le_refl low, h⟩
  · exact fun s h => always_intBetween h s

/-- One of some integers is one of them. -/
theorem always_oneOfInts (choices : List Int64) :
    Draw.Always (oneOfInts choices : Draw σ (Option Int64)) fun n =>
      choices ≠ [] → n.getD 0 ∈ choices := by
  cases choices with
  | nil => exact Draw.always_pure fun h => absurd rfl h
  | cons c cs => exact Draw.always_bind (always_pick c cs) fun n hn => Draw.always_pure fun _ => hn

/-! ### Recent instants -/

/-- The length of a window in seconds fits into 64 bits, whatever the number of days. -/
theorem toInt_window (days : UInt32) :
    (Int64.ofInt (days.toNat * Instant.secondsPerDay)).toInt =
      days.toNat * Instant.secondsPerDay := by
  have hdays := days.toNat_lt
  rw [Instant.secondsPerDay, Int64.toInt_ofInt_of_le] <;> omega

/-- Going back by at most the length of the window leads into it. -/
theorem inWindow_of_back {now : Instant} {days : UInt32} {back : Int64} (hback : 0 ≤ back.toInt)
    (hwindow : back.toInt ≤ days.toNat * Instant.secondsPerDay)
    (hfirst : Instant.firstSecond ≤ now.seconds - days.toNat * Instant.secondsPerDay)
    (hlast : now.seconds ≤ Instant.lastSecond) :
    InWindow now days ((Instant.ofSecond? (now.seconds - back.toInt)).getD now) := by
  have hrange : Instant.firstSecond ≤ now.seconds - back.toInt ∧
      now.seconds - back.toInt ≤ Instant.lastSecond := by omega
  rw [Instant.ofSecond?, if_pos hrange]
  refine ⟨rfl, ?_, ?_⟩
  · show _ ≤ now.seconds - back.toInt
    omega
  · show now.seconds - back.toInt ≤ _
    omega

/-- A recent instant is a whole second of its window, if the calendar has all of the window. -/
theorem always_recentInstant (now : Instant) (days : UInt32) :
    Draw.Always (recentInstant now days : Draw σ Instant) fun t =>
      Instant.firstSecond ≤ now.seconds - days.toNat * Instant.secondsPerDay →
        now.seconds ≤ Instant.lastSecond → InWindow now days t := by
  unfold recentInstant
  dsimp only
  split
  · next hpos =>
    have hle : (0 : Int64) ≤ Int64.ofInt (days.toNat * Instant.secondsPerDay) := by
      rw [Int64.le_iff_toInt_le, toInt_window]
      exact Int.le_of_lt hpos
    refine Draw.always_bind (always_intBetween hle) fun back hb => Draw.always_pure ?_
    rw [Int64.le_iff_toInt_le, Int64.le_iff_toInt_le, toInt_window] at hb
    exact inWindow_of_back hb.1 hb.2
  · have hwindow : (0 : Int) ≤ days.toNat * Instant.secondsPerDay :=
      Int.mul_nonneg (Int.natCast_nonneg _) (by decide)
    have hback : (0 : Int) ≤ (0 : Int64).toInt := Int.le_refl 0
    exact Draw.always_pure (inWindow_of_back hback hwindow)

end

end SyntheticLoad.Field
