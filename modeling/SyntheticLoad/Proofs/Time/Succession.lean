import Mathlib.Data.Prod.Lex
import Mathlib.Order.Monotone.Basic
import SyntheticLoad.Proofs.Time.Calendar

/-!
# The succession of dates

The calendar counts on by one rule: after the last day of a month comes the first one of the
next month, and after the last month the first one of the next year (`Date.next`). Days and
dates go on together (`dayNumber_next`, `dateOfDay_succ`), and day 0 is 1970-01-01, so the
calendar of days is the proleptic Gregorian one, forwards and backwards. It also follows that
later days have later dates (`dateOfDay_lt_dateOfDay`).

What carries this is that the number of a date determines it (`dateOfDay_dayNumber`): of all
years of an era only one has the day.
-/

namespace SyntheticLoad.Time

instance (year : Int) : Decidable (IsLeapYear year) :=
  inferInstanceAs (Decidable (_ ∧ (_ → _)))

instance (year : Int) (month day : Nat) : Decidable (HasDay year month day) :=
  inferInstanceAs (Decidable (_ ∨ (_ ∧ _ ∧ _) ∨ (_ ∧ _) ∨ (_ ∧ _)))

namespace Date

/-! ### The order of dates -/

/-- The year, the month and the day, the year counting most. -/
def key (d : Date) : ℤ ×ₗ ℕ ×ₗ ℕ := toLex (d.year, toLex (d.month, d.day))

theorem key_injective : Function.Injective key := by
  rintro ⟨y, m, d⟩ ⟨y', m', d'⟩ h
  obtain ⟨rfl, h⟩ := Prod.mk.inj (toLex_inj.1 h)
  obtain ⟨rfl, rfl⟩ := Prod.mk.inj (toLex_inj.1 h)
  rfl

instance : LinearOrder Date := LinearOrder.lift' key key_injective

theorem lt_iff {d d' : Date} : d < d' ↔ d.year < d'.year ∨ d.year = d'.year ∧
    (d.month < d'.month ∨ d.month = d'.month ∧ d.day < d'.day) := by
  show toLex (d.year, toLex (d.month, d.day)) < toLex (d'.year, toLex (d'.month, d'.day)) ↔ _
  rw [Prod.Lex.toLex_lt_toLex, Prod.Lex.toLex_lt_toLex]

/-! ### The next date -/

/-- The date after a date. -/
def next (d : Date) : Date :=
  if HasDay d.year d.month (d.day + 1) then ⟨d.year, d.month, d.day + 1⟩
  else if d.month < 12 then ⟨d.year, d.month + 1, 1⟩
  else ⟨d.year + 1, 1, 1⟩

theorem lt_next (d : Date) : d < d.next := by
  rw [lt_iff, next]
  split
  · exact .inr ⟨rfl, .inr ⟨rfl, Nat.lt_succ_self d.day⟩⟩
  split
  · exact .inr ⟨rfl, .inl (Nat.lt_succ_self d.month)⟩
  · exact .inl (Int.lt_succ d.year)

theorem Valid.next {d : Date} (h : d.Valid) : d.next.Valid := by
  obtain ⟨⟨hlow, hhigh⟩, -⟩ := h
  have hfirst : 1 ≤ 28 := by decide
  rw [Date.next]
  split
  · next hnext => exact ⟨⟨hlow, hhigh⟩, Nat.le_add_left _ _, hnext⟩
  split
  · next hmonth => exact ⟨⟨Nat.le_add_left _ _, hmonth⟩, Nat.le_refl 1, .inl hfirst⟩
  · exact ⟨⟨Nat.le_refl 1, Nat.le_add_left _ _⟩, Nat.le_refl 1, .inl hfirst⟩

/-- No month is longer than 31 days. -/
theorem Valid.day_le {d : Date} (h : d.Valid) : d.day ≤ 31 := by
  rcases h.day.2 with hle | ⟨-, -, hle⟩ | ⟨-, hle⟩ | ⟨-, hle⟩ <;> omega

/-- A date with no day after it in its month has the last day that the month can have. -/
theorem Valid.last {d : Date} (h : d.Valid) (hlast : ¬HasDay d.year d.month (d.day + 1)) :
    (d.month = 2 ∧ IsLeapYear d.year ∧ d.day = 29) ∨
    (d.month = 2 ∧ ¬IsLeapYear d.year ∧ d.day = 28) ∨
    (d.month ∈ [4, 6, 9, 11] ∧ d.day = 30) ∨ (d.month ∈ [1, 3, 5, 7, 8, 10, 12] ∧ d.day = 31) := by
  obtain ⟨hmonth, -, hday⟩ := h
  obtain ⟨h28, h29, h30, h31⟩ : 28 < d.day + 1 ∧
      (d.month = 2 → IsLeapYear d.year → 29 < d.day + 1) ∧ (d.month ≠ 2 → 30 < d.day + 1) ∧
      (d.month ∈ [1, 3, 5, 7, 8, 10, 12] → 31 < d.day + 1) := by
    simpa only [HasDay, not_or, not_and, Nat.not_le] using hlast
  rcases hday with hle | ⟨htwo, hleap, hle⟩ | ⟨hne, hle⟩ | ⟨hmem, hle⟩
  · have htwo : d.month = 2 := by
      by_contra hne
      have := h30 hne
      omega
    refine .inr (.inl ⟨htwo, fun hleap => ?_, by omega⟩)
    have := h29 htwo hleap
    omega
  · have := h29 htwo hleap
    exact .inl ⟨htwo, hleap, by omega⟩
  · have := h30 hne
    refine .inr (.inr (.inl ⟨?_, by omega⟩))
    simp only [List.mem_cons, List.not_mem_nil, or_false] at h31 ⊢
    omega
  · have := h31 hmem
    exact .inr (.inr (.inr ⟨hmem, by omega⟩))

end Date

/-! ### The years of the calendar, from March to March -/

/-- From one first of March to the next there are as many days as in the year of the latter. -/
theorem marchDay_succ (year : Int) :
    marchDay (year + 1) = marchDay year + if IsLeapYear (year + 1) then 366 else 365 := by
  obtain ⟨era, k, rfl, hk⟩ : ∃ (era : Int) (k : Nat), year = era * 400 + k ∧ k < 400 :=
    ⟨year / 400, (year % 400).toNat, by omega, by omega⟩
  have hleap : IsLeapYear (era * 400 + k + 1) ↔
      (k + 1) % 4 = 0 ∧ ((k + 1) % 100 = 0 → k + 1 = 400) := by
    simp only [IsLeapYear]
    omega
  rw [marchDay_of_era era hk]
  -- With its last year, which is a leap year, an era ends.
  by_cases hlast : k = 399
  · have hnext := marchDay_of_era (era + 1) (show 0 < 400 by decide)
    have hyear : era * 400 + (k : Int) + 1 = (era + 1) * 400 + (0 : Nat) := by omega
    rw [if_pos (hleap.2 (by omega)), hyear, hnext]
    simp only [dayOfEra]
    omega
  · have hnext := marchDay_of_era era (show k + 1 < 400 by omega)
    have hyear : era * 400 + (k : Int) + 1 = era * 400 + (k + 1 : Nat) := by omega
    simp only [hleap]
    rw [hyear, hnext]
    simp only [dayOfEra]
    split <;> omega

theorem marchDay_lt_iff {year year' : Int} : marchDay year < marchDay year' ↔ year < year' :=
  StrictMono.lt_iff_lt <| strictMono_int_of_lt_succ fun year => by
    rw [marchDay_succ]
    split <;> omega

/-! ### Days and dates go on together -/

/-- The first of March follows the last of February. -/
theorem dayNumber_march {year : Int} {day : Nat}
    (h : IsLeapYear year ∧ day = 29 ∨ ¬IsLeapYear year ∧ day = 28) :
    (Date.mk year 3 1).dayNumber = (Date.mk year 2 day).dayNumber + 1 := by
  have hmarch := marchDay_succ (year - 1)
  rw [Int.sub_add_cancel] at hmarch
  rw [dayNumber_late (by decide), dayNumber_early (by decide)]
  simp only [daysBeforeMonth]
  rcases h with ⟨hleap, rfl⟩ | ⟨hleap, rfl⟩
  · rw [if_pos hleap] at hmarch
    omega
  · rw [if_neg hleap] at hmarch
    omega

/-- The next date has the next number. -/
theorem dayNumber_next {d : Date} (h : d.Valid) : d.next.dayNumber = d.dayNumber + 1 := by
  obtain ⟨year, month, day⟩ := d
  have hday : 1 ≤ day := h.day.1
  rw [Date.next]
  dsimp only
  split
  · rw [dayNumber_eq, dayNumber_eq]
    simp only [Date.marchYear, Date.marchMonth]
    omega
  next hlast =>
  -- At the end of February the year that starts in March ends; all other months are in it.
  rcases h.last hlast with ⟨rfl, hleap, rfl⟩ | ⟨rfl, hleap, rfl⟩ | ⟨hmonth, rfl⟩ | ⟨hmonth, rfl⟩
  · exact dayNumber_march (.inl ⟨hleap, rfl⟩)
  · exact dayNumber_march (.inr ⟨hleap, rfl⟩)
  all_goals simp only [List.mem_cons, List.not_mem_nil, or_false] at hmonth
  · have hlate : 2 < month ∧ month < 12 := by omega
    rw [if_pos hlate.2, dayNumber_late hlate.1, dayNumber_late (Nat.lt_succ_of_lt hlate.1)]
    simp only [daysBeforeMonth]
    omega
  · obtain rfl | ⟨hlate, hnext⟩ | rfl : month = 1 ∨ (2 < month ∧ month < 12) ∨ month = 12 := by
      omega
    · rw [if_pos (by decide), dayNumber_early (by decide), dayNumber_early (by decide)]
      simp only [daysBeforeMonth]
      omega
    · rw [if_pos hnext, dayNumber_late hlate, dayNumber_late (Nat.lt_succ_of_lt hlate)]
      simp only [daysBeforeMonth]
      omega
    · rw [if_neg (by decide), dayNumber_early (by decide), dayNumber_late (by decide),
        Int.add_sub_cancel]
      simp only [daysBeforeMonth]
      omega

/-! ### A number determines the date -/

/-- The place of a date in its year: its month is the one that is computed for the place, and the
    last place is that of a leap day. -/
theorem Date.Valid.place {d : Date} (h : d.Valid) :
    (5 * (daysBeforeMonth d.marchMonth + d.day - 1) + 2) / 153 = d.marchMonth ∧
      (daysBeforeMonth d.marchMonth + d.day - 1 < 365 ∨
        daysBeforeMonth d.marchMonth + d.day - 1 = 365 ∧ IsLeapYear (d.marchYear + 1)) := by
  obtain ⟨year, month, day⟩ := d
  obtain ⟨⟨hlow, hhigh⟩, hday, hlast⟩ := h
  dsimp only at hlow hhigh hday hlast
  have hmonth : (2 < month ∧ (Date.mk year month day).marchMonth = month - 3) ∨
      (month ≤ 2 ∧ (Date.mk year month day).marchMonth = month + 9) := by
    simp only [Date.marchMonth]
    split <;> omega
  simp only [daysBeforeMonth]
  generalize (Date.mk year month day).marchMonth = place at *
  simp only [HasDay, List.mem_cons, List.not_mem_nil, or_false] at hlast
  rcases hlast with hlast | ⟨rfl, hleap, hlast⟩ | ⟨hne, hlast⟩ | ⟨hmem, hlast⟩
  · exact ⟨by omega, .inl (by omega)⟩
  · refine ⟨by omega, (Nat.lt_or_ge day 29).imp (fun _ => by omega) fun _ => ⟨by omega, ?_⟩⟩
    rw [Date.marchYear, if_pos (Nat.le_refl 2), Int.sub_add_cancel]
    exact hleap
  · exact ⟨by omega, .inl (by omega)⟩
  · exact ⟨by omega, .inl (by omega)⟩

/-- A date lies between the first of March before it and the one after it. -/
theorem Date.Valid.dayNumber_bounds {d : Date} (h : d.Valid) :
    marchDay d.marchYear ≤ d.dayNumber ∧ d.dayNumber < marchDay (d.marchYear + 1) := by
  obtain ⟨-, hplace⟩ := h.place
  rw [dayNumber_eq, marchDay_succ]
  refine ⟨by omega, ?_⟩
  rcases hplace with hlt | ⟨heq, hleap⟩
  · split <;> omega
  · rw [if_pos hleap]
    omega

/-- A date is determined by its day and the month and the year that start in March. -/
theorem Date.eq_of_march {d d' : Date} (h : d.Valid) (h' : d'.Valid)
    (hyear : d.marchYear = d'.marchYear) (hmonth : d.marchMonth = d'.marchMonth)
    (hday : d.day = d'.day) : d = d' := by
  obtain ⟨year, month, day⟩ := d
  obtain ⟨year', month', day'⟩ := d'
  have hrange : 1 ≤ month ∧ month ≤ 12 := h.month
  have hrange' : 1 ≤ month' ∧ month' ≤ 12 := h'.month
  simp only [Date.marchYear, Date.marchMonth] at hyear hmonth
  have heq : month = month' := by
    split_ifs at hmonth <;> omega
  subst heq
  rw [Date.mk.injEq]
  refine ⟨?_, rfl, hday⟩
  split at hyear <;> omega

/-- A date of the calendar is determined by its number. -/
theorem eq_of_dayNumber {d d' : Date} (h : d.Valid) (h' : d'.Valid)
    (heq : d.dayNumber = d'.dayNumber) : d = d' := by
  -- Only one year that starts in March has the day, and in it only one month.
  have hyear : d.marchYear = d'.marchYear := by
    have hbounds := h.dayNumber_bounds
    have hbounds' := h'.dayNumber_bounds
    have hlt := marchDay_lt_iff.1 (hbounds.1.trans_lt (heq ▸ hbounds'.2))
    have hlt' := marchDay_lt_iff.1 (hbounds'.1.trans_lt (heq ▸ hbounds.2))
    omega
  have hplace : daysBeforeMonth d.marchMonth + d.day - 1 =
      daysBeforeMonth d'.marchMonth + d'.day - 1 := by
    rw [dayNumber_eq, dayNumber_eq, hyear] at heq
    omega
  have hmonth : d.marchMonth = d'.marchMonth := by
    rw [← h.place.1, ← h'.place.1, hplace]
  refine Date.eq_of_march h h' hyear hmonth ?_
  have hpos := h.day.1
  have hpos' := h'.day.1
  rw [hmonth] at hplace
  omega

/-- The date of the number of a date is the date. -/
theorem dateOfDay_dayNumber {d : Date} (h : d.Valid) : dateOfDay d.dayNumber = d :=
  eq_of_dayNumber (dateOfDay_valid _) h (dayNumber_dateOfDay _)

/-- The date of the next day is the next date. -/
theorem dateOfDay_succ (n : Int) : dateOfDay (n + 1) = (dateOfDay n).next := by
  have hnext := dateOfDay_dayNumber (dateOfDay_valid n).next
  rw [dayNumber_next (dateOfDay_valid n), dayNumber_dateOfDay] at hnext
  exact hnext

/-- Later days have later dates. -/
theorem dateOfDay_lt_dateOfDay {m n : Int} (h : m < n) : dateOfDay m < dateOfDay n :=
  strictMono_int_of_lt_succ (fun n => dateOfDay_succ n ▸ Date.lt_next _) h

end SyntheticLoad.Time
