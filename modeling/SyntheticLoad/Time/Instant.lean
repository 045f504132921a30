import SyntheticLoad.Text.Numeral
import SyntheticLoad.Time.Calendar

/-!
# Instants

An instant is a whole number of seconds since the start of 1970 and nanoseconds
after it. A leap second has no number of its own: it is the last second of a
minute with a thousand million nanoseconds or more. The calendar of instants runs
from the first second of year -262143 to the last one of year 262142.

`Instant.text` writes an instant as a date and a time of day in UTC
(`2024-03-05T10:20:30Z`), with as few of 0, 3, 6 or 9 decimals as are exact.
-/

namespace SyntheticLoad.Time

open Text

/-- An instant. -/
structure Instant where
  /-- Seconds since 1970-01-01T00:00:00Z. -/
  seconds : Int
  /-- Nanoseconds after that second; a thousand million or more in a leap second. -/
  nanos : Nat
  deriving DecidableEq, Repr

namespace Instant

/-- The seconds of a day. -/
def secondsPerDay : Int := 86400

/-- The first second of the calendar. -/
def firstSecond : Int := (Date.mk (-262143) 1 1).dayNumber * secondsPerDay

/-- The last second of the calendar. -/
def lastSecond : Int := (Date.mk 262143 1 1).dayNumber * secondsPerDay - 1

/-- The instant of a whole second, if the calendar has it. -/
def ofSecond? (s : Int) : Option Instant :=
  if firstSecond ≤ s ∧ s ≤ lastSecond then some ⟨s, 0⟩ else none

/-- A year as it stands in a date: four digits from 0 to 9999, and otherwise a
    sign and at least four digits. -/
def yearText (y : Int) : List Char :=
  if 0 ≤ y ∧ y ≤ 9999 then
    padded 4 y.toNat
  else if y < 0 then
    '-' :: padded 4 (-y).toNat
  else
    '+' :: padded 4 y.toNat

/-- The decimals of a second: none, or a point and 3, 6 or 9 digits. -/
def fractionText (nanos : Nat) : List Char :=
  if nanos = 0 then []
  else if nanos % 1000000 = 0 then '.' :: padded 3 (nanos / 1000000)
  else if nanos % 1000 = 0 then '.' :: padded 6 (nanos / 1000)
  else '.' :: padded 9 nanos

/-- An instant as a date and a time of day. A leap second is second 60. -/
def text (t : Instant) : List Char :=
  let date := dateOfDay (t.seconds.fdiv secondsPerDay)
  let second := (t.seconds.fmod secondsPerDay).toNat
  yearText date.year ++ '-' :: padded 2 date.month ++ '-' :: padded 2 date.day ++
    'T' :: padded 2 (second / 3600) ++ ':' :: padded 2 (second / 60 % 60) ++
    ':' :: padded 2 (second % 60 + t.nanos / 1000000000) ++
    fractionText (t.nanos % 1000000000) ++ ['Z']

end Instant

end SyntheticLoad.Time
