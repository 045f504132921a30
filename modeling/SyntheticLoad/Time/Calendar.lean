/-!
# The calendar

Days of the proleptic Gregorian calendar, counted from 1970-01-01. The count
starts a year in March, so that the leap day is the last of its year, and an era
of 400 years has 146 097 days. `dayNumber` counts the days of a date, and
`dateOfDay` is the date of a day; the two are inverse to each other.
-/

namespace SyntheticLoad.Time

/-- A date. Year 0 is the year before year 1. -/
structure Date where
  year : Int
  /-- From 1 to 12. -/
  month : Nat
  /-- From 1 to the length of the month. -/
  day : Nat
  deriving DecidableEq, Repr

/-- The days from 0000-03-01 to 1970-01-01. -/
def epochOffset : Int := 719468

/-- The days of an era before a day of its year `yearOfEra`, which starts in March. -/
def dayOfEra (yearOfEra dayOfYear : Nat) : Nat :=
  yearOfEra * 365 + yearOfEra / 4 - yearOfEra / 100 + dayOfYear

/-- The days of a year before a month, where month 0 is March. -/
def daysBeforeMonth (month : Nat) : Nat := (153 * month + 2) / 5

/-- The number of a date, with 1970-01-01 as day 0. -/
def Date.dayNumber (d : Date) : Int :=
  let year := if d.month ≤ 2 then d.year - 1 else d.year
  let month := if 2 < d.month then d.month - 3 else d.month + 9
  let era := year.fdiv 400
  let yearOfEra := (year.fmod 400).toNat
  era * 146097 + dayOfEra yearOfEra (daysBeforeMonth month + d.day - 1) - epochOffset

/-- The date of a day, with day 0 as 1970-01-01. -/
def dateOfDay (n : Int) : Date :=
  let z := n + epochOffset
  let era := z.fdiv 146097
  let doe := (z.fmod 146097).toNat
  let yearOfEra := (doe - doe / 1460 + doe / 36524 - doe / 146096) / 365
  let dayOfYear := doe - (365 * yearOfEra + yearOfEra / 4 - yearOfEra / 100)
  let month := (5 * dayOfYear + 2) / 153
  let day := dayOfYear - daysBeforeMonth month + 1
  let civilMonth := if month < 10 then month + 3 else month - 9
  let year := era * 400 + yearOfEra
  ⟨if civilMonth ≤ 2 then year + 1 else year, civilMonth, day⟩

end SyntheticLoad.Time
