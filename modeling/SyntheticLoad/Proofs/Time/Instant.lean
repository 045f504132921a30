import SyntheticLoad.Proofs.Time.Calendar

/-!
# The text of an instant shows it

A text shows an instant if it is a date of the calendar and a time of day that together make up
the seconds of the instant, with decimals that make up the rest (`Instant.ShownBy`). The
text of every instant does (`Instant.shownBy_text`).
-/

namespace SyntheticLoad.Time

open Text

/-- The decimals of a second: none if there is nothing left, and otherwise enough of them. -/
inductive FractionShownBy (nanos : Nat) : List Char → Prop
  | none : nanos = 0 → FractionShownBy nanos []
  | places {places decimals : Nat} : places ≤ 9 → decimals * Nat.pow 10 (9 - places) = nanos →
    FractionShownBy nanos ('.' :: padded places decimals)

/-- A date and a time of day, in universal time, that make up an instant. In a leap second the
    seconds go up to 60. -/
inductive Instant.ShownBy (t : Instant) : List Char → Prop
  | mk {date : Date} {hour minute second : Nat} {fraction : List Char} :
    date.Valid → hour < 24 → minute < 60 → second < 60 →
    t.seconds = date.dayNumber * secondsPerDay + (hour * 3600 + minute * 60 + second : Nat) →
    FractionShownBy (t.nanos % 1000000000) fraction →
    Instant.ShownBy t (yearText date.year ++ '-' :: padded 2 date.month ++
      '-' :: padded 2 date.day ++ 'T' :: padded 2 hour ++ ':' :: padded 2 minute ++
      ':' :: padded 2 (second + t.nanos / 1000000000) ++ fraction ++ ['Z'])

theorem fractionShownBy_fractionText (nanos : Nat) :
    FractionShownBy nanos (Instant.fractionText nanos) := by
  rw [Instant.fractionText]
  split
  · next h => exact .none h
  split
  · next h => exact .places (by decide) (Nat.div_mul_cancel (Nat.dvd_of_mod_eq_zero h))
  split
  · next h => exact .places (by decide) (Nat.div_mul_cancel (Nat.dvd_of_mod_eq_zero h))
  · exact .places (by decide) (Nat.mul_one nanos)

/-- The number of the day of an instant. -/
def Instant.day (t : Instant) : Int := t.seconds.fdiv secondsPerDay

/-- The text of an instant, with the parts of its time of day. -/
theorem Instant.text_eq (t : Instant) : ∃ hour minute second : Nat,
    hour < 24 ∧ minute < 60 ∧ second < 60 ∧
    t.seconds = t.day * secondsPerDay + (hour * 3600 + minute * 60 + second : Nat) ∧
    t.text = yearText (dateOfDay t.day).year ++ '-' :: padded 2 (dateOfDay t.day).month ++
      '-' :: padded 2 (dateOfDay t.day).day ++ 'T' :: padded 2 hour ++ ':' :: padded 2 minute ++
      ':' :: padded 2 (second + t.nanos / 1000000000) ++
      fractionText (t.nanos % 1000000000) ++ ['Z'] := by
  have hsecond : (t.seconds.fmod secondsPerDay).toNat < 86400 ∧
      t.seconds = t.day * secondsPerDay + ((t.seconds.fmod secondsPerDay).toNat : Int) := by
    rw [day, secondsPerDay, Int.fdiv_eq_ediv_of_nonneg _ (by decide),
      Int.fmod_eq_emod_of_nonneg _ (by decide)]
    omega
  obtain ⟨hlt, hseconds⟩ := hsecond
  refine ⟨_, _, _, ?_, ?_, ?_, ?_, rfl⟩ <;>
    generalize (t.seconds.fmod secondsPerDay).toNat = second at *
  · omega
  · omega
  · omega
  · rw [hseconds]
    omega

/-- The text of an instant shows it. -/
theorem Instant.shownBy_text (t : Instant) : t.ShownBy t.text := by
  obtain ⟨hour, minute, second, hhour, hminute, hsecond, hseconds, htext⟩ := t.text_eq
  rw [htext]
  refine .mk (dateOfDay_valid _) hhour hminute hsecond ?_ (fractionShownBy_fractionText _)
  rw [dayNumber_dateOfDay]
  exact hseconds

end SyntheticLoad.Time
