import SyntheticLoad.Time.Instant

/-!
# The calendar is right

The date of a day is one that the calendar has (`dateOfDay_valid`), and its number is that of
the day (`dayNumber_dateOfDay`). Both come down to one fact about the days of an era: the year
that is computed for a day is the one that the day falls into (`yearOfDay_bounds`).
-/

namespace SyntheticLoad.Time

/-- Every fourth year has a leap day, but of the full centuries only every fourth. -/
def IsLeapYear (year : Int) : Prop := year % 4 = 0 ∧ (year % 100 = 0 → year % 400 = 0)

/-- The number of days of a month is at least `day`. -/
def HasDay (year : Int) (month day : Nat) : Prop :=
  day ≤ 28 ∨ (month = 2 ∧ IsLeapYear year ∧ day ≤ 29) ∨ (month ≠ 2 ∧ day ≤ 30) ∨
    (month ∈ [1, 3, 5, 7, 8, 10, 12] ∧ day ≤ 31)

/-- The calendar has a date. -/
structure Date.Valid (d : Date) : Prop where
  month : 1 ≤ d.month ∧ d.month ≤ 12
  day : 1 ≤ d.day ∧ HasDay d.year d.month d.day

/-! ### Days of an era -/

/-- The year of an era that a day of the era falls into. Years start in March. -/
def yearOfDay (doe : Nat) : Nat := (doe - doe / 1460 + doe / 36524 - doe / 146096) / 365

/-- The days of an era before a year. -/
def daysBeforeYear (year : Nat) : Nat := 365 * year + year / 4 - year / 100

/-- A day falls into the year that is computed for it. The last year of an era is a day longer
    than the formula has it. -/
theorem yearOfDay_bounds {doe : Nat} (h : doe < 146097) :
    daysBeforeYear (yearOfDay doe) ≤ doe ∧
      (yearOfDay doe = 399 ∨ yearOfDay doe < 399 ∧ doe < daysBeforeYear (yearOfDay doe + 1)) := by
  rcases Nat.lt_or_eq_of_le (Nat.le_of_lt_succ h) with hlt | rfl
  · have hcentury : doe / 36524 = 0 ∨ doe / 36524 = 1 ∨ doe / 36524 = 2 ∨ doe / 36524 = 3 := by
      omega
    have hyear : yearOfDay doe = (doe - doe / 1460 + doe / 36524) / 365 := by
      rw [yearOfDay, Nat.div_eq_of_lt hlt, Nat.sub_zero]
    simp only [daysBeforeYear]
    generalize yearOfDay doe = year at *
    -- With the century known, what is left is linear.
    have hhundreds : year / 100 = doe / 36524 := by
      rcases hcentury with hc | hc | hc | hc <;> rw [hc] at hyear <;> omega
    have hnext : (year + 1) / 100 = year / 100 ∨ (year + 1) / 100 = year / 100 + 1 := by omega
    rcases hcentury with hc | hc | hc | hc <;> rw [hc] at hyear <;> omega
  · decide

/-- The day of the year is one of 366, and the last of them only in a leap year. -/
theorem dayOfYear_bounds {doe : Nat} (h : doe < 146097) (era : Int) :
    doe - daysBeforeYear (yearOfDay doe) ≤ 365 ∧
      (doe - daysBeforeYear (yearOfDay doe) = 365 →
        IsLeapYear (era * 400 + yearOfDay doe + 1)) := by
  obtain ⟨hlow, hhigh⟩ := yearOfDay_bounds h
  simp only [daysBeforeYear, IsLeapYear] at *
  generalize yearOfDay doe = year at *
  refine ⟨by omega, fun hlast => ?_⟩
  -- A year with a day more has a multiple of four that is no full century, or ends an era.
  have hfour : (year + 1) / 4 = year / 4 ∨ (year + 1) / 4 = year / 4 + 1 ∧ (year + 1) % 4 = 0 := by
    omega
  have hhundred : (year + 1) / 100 = year / 100 ∧ (year + 1) % 100 ≠ 0 ∨
      (year + 1) / 100 = year / 100 + 1 := by
    omega
  have hleap : year = 399 ∨ ((year + 1) % 4 = 0 ∧ (year + 1) % 100 ≠ 0) := by omega
  omega

/-! ### Years that start in March -/

/-- The number of the first of March of a year. -/
def marchDay (year : Int) : Int :=
  year.fdiv 400 * 146097 + dayOfEra (year.fmod 400).toNat 0 - epochOffset

/-- The year of a date, if years start in March. -/
def Date.marchYear (d : Date) : Int := if d.month ≤ 2 then d.year - 1 else d.year

/-- The month of a date, if years start in March, as month 0. -/
def Date.marchMonth (d : Date) : Nat := if 2 < d.month then d.month - 3 else d.month + 9

/-- The number of a date counts from the first of March before it. -/
theorem dayNumber_eq (d : Date) : d.dayNumber =
    marchDay d.marchYear + (daysBeforeMonth d.marchMonth + d.day - 1 : Nat) := by
  simp only [Date.dayNumber, marchDay, dayOfEra, Date.marchYear, Date.marchMonth]
  omega

theorem dayNumber_early {year : Int} {month day : Nat} (h : month ≤ 2) :
    (Date.mk year month day).dayNumber =
      marchDay (year - 1) + (daysBeforeMonth (month + 9) + day - 1 : Nat) := by
  rw [dayNumber_eq, Date.marchYear, Date.marchMonth, if_pos h, if_neg (Nat.not_lt.2 h)]

theorem dayNumber_late {year : Int} {month day : Nat} (h : 2 < month) :
    (Date.mk year month day).dayNumber =
      marchDay year + (daysBeforeMonth (month - 3) + day - 1 : Nat) := by
  rw [dayNumber_eq, Date.marchYear, Date.marchMonth, if_neg (Nat.not_le.2 h), if_pos h]

/-- The first of March of a year of an era. -/
theorem marchDay_of_era (era : Int) {k : Nat} (h : k < 400) :
    marchDay (era * 400 + k) = era * 146097 + dayOfEra k 0 - epochOffset := by
  have hdiv : (era * 400 + (k : Int)).fdiv 400 = era := by
    rw [Int.fdiv_eq_ediv_of_nonneg _ (by decide)]
    omega
  have hmod : ((era * 400 + (k : Int)).fmod 400).toNat = k := by
    rw [Int.fmod_eq_emod_of_nonneg _ (by decide)]
    omega
  rw [marchDay, hdiv, hmod]

/-! ### Dates -/

/-- The parts of the date of a day. -/
theorem dateOfDay_eq (n : Int) : ∃ (era : Int) (doe : Nat), n + epochOffset = era * 146097 + doe ∧
    doe < 146097 ∧
    dateOfDay n =
      let dayOfYear := doe - daysBeforeYear (yearOfDay doe)
      let month := (5 * dayOfYear + 2) / 153
      let civilMonth := if month < 10 then month + 3 else month - 9
      let year := era * 400 + yearOfDay doe
      ⟨if civilMonth ≤ 2 then year + 1 else year, civilMonth,
        dayOfYear - daysBeforeMonth month + 1⟩ := by
  refine ⟨(n + epochOffset).fdiv 146097, ((n + epochOffset).fmod 146097).toNat, ?_, ?_, rfl⟩
  · rw [Int.fdiv_eq_ediv_of_nonneg _ (by decide), Int.fmod_eq_emod_of_nonneg _ (by decide)]
    omega
  · rw [Int.fmod_eq_emod_of_nonneg _ (by decide)]
    omega

/-- The months of a year have the right lengths, if its last day, in February, is left out. -/
theorem day_le_length : ∀ dayOfYear < 365,
    let month := (5 * dayOfYear + 2) / 153
    let civilMonth := if month < 10 then month + 3 else month - 9
    let day := dayOfYear - daysBeforeMonth month + 1
    day ≤ 28 ∨ (civilMonth ≠ 2 ∧ day ≤ 30) ∨
      (civilMonth ∈ [1, 3, 5, 7, 8, 10, 12] ∧ day ≤ 31) := by
  decide +kernel

/-- The date of a day is one of the calendar. -/
theorem dateOfDay_valid (n : Int) : (dateOfDay n).Valid := by
  obtain ⟨era, doe, -, hdoe, heq⟩ := dateOfDay_eq n
  obtain ⟨hday, hleap⟩ := dayOfYear_bounds hdoe era
  rw [heq]
  generalize doe - daysBeforeYear (yearOfDay doe) = dayOfYear at *
  refine ⟨?_, Nat.le_add_left _ _, ?_⟩
  · have hmonth : (5 * dayOfYear + 2) / 153 ≤ 11 := by omega
    simp only
    split <;> omega
  · rcases Nat.lt_or_eq_of_le hday with hlt | rfl
    · rcases day_le_length dayOfYear hlt with h | h | h
      · exact .inl h
      · exact .inr (.inr (.inl h))
      · exact .inr (.inr (.inr h))
    · exact .inr (.inl ⟨rfl, hleap rfl, Nat.le_refl 29⟩)

/-- The number of the date of a day is that of the day. -/
theorem dayNumber_dateOfDay (n : Int) : (dateOfDay n).dayNumber = n := by
  obtain ⟨era, doe, hn, hdoe, heq⟩ := dateOfDay_eq n
  obtain ⟨hlow, hyear⟩ := yearOfDay_bounds hdoe
  obtain ⟨hday, -⟩ := dayOfYear_bounds hdoe era
  -- The day is as far behind the first of March as its place in the year says.
  have hmarch : marchDay (era * 400 + yearOfDay doe) +
      (doe - daysBeforeYear (yearOfDay doe) : Nat) = n := by
    have hfirst : dayOfEra (yearOfDay doe) 0 = daysBeforeYear (yearOfDay doe) := by
      simp only [dayOfEra, daysBeforeYear]
      omega
    rw [marchDay_of_era era (by omega), hfirst]
    omega
  rw [heq]
  dsimp only
  generalize doe - daysBeforeYear (yearOfDay doe) = dayOfYear at *
  have hplace : daysBeforeMonth ((5 * dayOfYear + 2) / 153) +
      (dayOfYear - daysBeforeMonth ((5 * dayOfYear + 2) / 153) + 1) - 1 = dayOfYear := by
    rw [daysBeforeMonth]
    omega
  have hlast : (5 * dayOfYear + 2) / 153 ≤ 11 := by omega
  generalize (5 * dayOfYear + 2) / 153 = month at *
  by_cases hten : month < 10
  · have hlate : 2 < month + 3 := by omega
    rw [if_pos hten, if_neg (Nat.not_le.2 hlate), dayNumber_late hlate, Nat.add_sub_cancel, hplace,
      hmarch]
  · have hearly : month - 9 ≤ 2 := by omega
    rw [if_neg hten, if_pos hearly, dayNumber_early hearly, Int.add_sub_cancel,
      Nat.sub_add_cancel (by omega), hplace, hmarch]

end SyntheticLoad.Time
