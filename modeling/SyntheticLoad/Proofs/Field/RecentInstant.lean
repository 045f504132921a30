import SyntheticLoad.Proofs.Field.TwoClocks
import SyntheticLoad.Proofs.Time.Order
import SyntheticLoad.Random.Script

/-!
# The window of recent instants

A recent instant is the whole second of the clock, less a number of seconds. So it never lies
after the clock, and never farther back from the whole second of the clock than the window is
long (`Instant.secondsBack_bounds`). If the clock shows a whole second, then that is the window
that ends with the clock. If it shows a fraction of a second, then the window is that of the
second without it (`recentInstant_outside_window`).
-/

namespace SyntheticLoad

open SyntheticLoad.Random Time

/-- Some seconds back from the clock, and at most so many, is between those so many seconds
    before its whole second and the clock. -/
theorem Time.Instant.secondsBack_bounds (now : Instant) {back window : Int} (hback : 0 ≤ back)
    (hwindow : back ≤ window) :
    (⟨now.seconds - window, 0⟩ : Instant) ≤ now.secondsBack back ∧ now.secondsBack back ≤ now := by
  simp only [Instant.le_iff]
  by_cases h : OnCalendar (now.seconds - back)
  · rw [secondsBack_of_onCalendar h]
    dsimp only
    omega
  · -- The calendar does not reach back, so it is the clock itself.
    have hnone : ¬(firstSecond ≤ now.seconds - back ∧ now.seconds - back ≤ lastSecond) := h
    rw [secondsBack, ofSecond?, if_neg hnone, Option.getD_none]
    omega

namespace Field

/-- A recent instant is some seconds back from the clock, at most as many as the window has. -/
theorem always_secondsBack {σ : Type} [WordSource σ] (now : Instant) (days : UInt32) :
    Draw.Always (recentInstant now days : Draw σ Instant) fun t =>
      ∃ back : Int, 0 ≤ back ∧ back ≤ days.toNat * Instant.secondsPerDay ∧
        t = now.secondsBack back := by
  rw [recentInstant_eq]
  exact Draw.always_bind (always_drawBack days) fun back hback =>
    Draw.always_pure ⟨back.toInt, hback.1, hback.2, rfl⟩

/-- **Recent instants stay in their window, in whole seconds.** Whatever the source reads, a
    recent instant is not after the clock, and at most so many days before the whole second
    of the clock. It is a whole second, if the calendar has the far end of the window. With no
    days it is the whole second of the clock. So if the clock shows a whole second, the window
    ends with the clock, and with no days nothing but the clock is in it. -/
theorem recent_instants_in_window {σ : Type} [WordSource σ] (now : Instant) (days : UInt32)
    (s : σ) (hnow : Instant.OnCalendar now.seconds) :
    let t := ((recentInstant now days : Draw σ Instant).run s).1
    (now.wholeSecond.daysBefore days.toNat ≤ t ∧ t ≤ now) ∧
    (Instant.OnCalendar (now.daysBefore days.toNat).seconds → t.nanos = 0) ∧
    (days = 0 → t = now.wholeSecond) ∧
    (now.nanos = 0 → now.daysBefore days.toNat ≤ t ∧ (days = 0 → t = now)) := by
  intro t
  obtain ⟨back, hback, hwindow, ht⟩ : ∃ back : Int, 0 ≤ back ∧
      back ≤ days.toNat * Instant.secondsPerDay ∧ t = now.secondsBack back :=
    always_secondsBack now days s
  have hbounds : now.wholeSecond.daysBefore days.toNat ≤ t ∧ t ≤ now := by
    rw [ht]
    exact now.secondsBack_bounds hback hwindow
  have hzero : days = 0 → t = now.wholeSecond := by
    rintro rfl
    have hnone : back = 0 := Int.le_antisymm hwindow hback
    rw [ht, hnone, Instant.secondsBack_of_onCalendar (by rwa [Int.sub_zero]), Int.sub_zero]
    rfl
  refine ⟨hbounds, fun hfirst => ?_, hzero, fun hnanos => ?_⟩
  · have hon : Instant.OnCalendar (now.seconds - back) := by
      obtain ⟨hlow, -⟩ := hfirst
      obtain ⟨-, hhigh⟩ := hnow
      dsimp only [Instant.daysBefore] at hlow
      exact ⟨by omega, by omega⟩
    rw [ht, Instant.secondsBack_of_onCalendar hon]
  · rw [Instant.wholeSecond_of_nanos hnanos] at hbounds hzero
    exact ⟨hbounds.1, hzero⟩

/-- At a midnight: with no days to go back it is the midnight, with one day it is not after it
    and not before the one of the day before. -/
theorem recent_instants_in_window_of_midnight :
    let now : Instant := ⟨1709596800, 0⟩
    let words := Script.ofList [7]
    Instant.OnCalendar now.seconds ∧ now.nanos = 0 ∧
      ((recentInstant now 0).run words).1 = now ∧
      now.daysBefore (1 : UInt32).toNat ≤ ((recentInstant now 1).run words).1 ∧
      ((recentInstant now 1).run words).1 ≤ now ∧
      ((recentInstant now 1).run words).1.nanos = 0 := by
  intro now words
  have hnow : Instant.OnCalendar now.seconds := by
    rw [Instant.OnCalendar]
    decide
  obtain ⟨-, -, -, hnone⟩ := recent_instants_in_window now 0 words hnow
  obtain ⟨hwindow, hwhole, -, hday⟩ := recent_instants_in_window now 1 words hnow
  have hfirst : Instant.OnCalendar (now.daysBefore (1 : UInt32).toNat).seconds := by
    rw [Instant.OnCalendar]
    decide
  exact ⟨hnow, rfl, (hnone rfl).2 rfl, (hday rfl).1, hwindow.2, hwhole hfirst⟩

/-- With a clock in the middle of a second, a recent instant of no days is not the clock, and one
    of a day may be more than a day back. -/
theorem recentInstant_outside_window :
    let now : Instant := ⟨100000, 500000000⟩
    Instant.OnCalendar now.seconds ∧ Instant.OnCalendar (now.daysBefore 1).seconds ∧
      ((recentInstant now 0).run (Script.ofList [0])).1 ≠ now ∧
      ¬now.daysBefore 1 ≤
        ((recentInstant now 1).run (Script.ofList [18446744073709551615])).1 := by
  intro now
  have hnone : ((recentInstant now 0).run (Script.ofList [0])).1 = ⟨100000, 0⟩ := by decide
  have hday : ((recentInstant now 1).run (Script.ofList [18446744073709551615])).1 =
      ⟨13600, 0⟩ := by decide
  rw [hnone, hday, Instant.OnCalendar, Instant.OnCalendar, Instant.le_iff]
  decide

end Field

end SyntheticLoad
