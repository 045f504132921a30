import SyntheticLoad.Field.Draw
import SyntheticLoad.Proofs.Field.Conformance
import SyntheticLoad.Proofs.Random.Agreement
import SyntheticLoad.Proofs.Record.Likeness

/-!
# Records with two clocks

The clock enters a record in one place only: a recent instant is so many seconds before
the second of the clock. How many that are is drawn without a look at the clock, so with
two clocks it is the same number (`Instant.EquallyFarBack`).

Hence a record is drawn from the same words with either clock, and the two records are
alike but for their instants, which are equally far back (`agree_drawRecord`). This goes
through all kinds and lists of fields by one induction, as nested fields are drawn.
-/

namespace SyntheticLoad

open SyntheticLoad.Random Time SyntheticLoad.Field

/-- The calendar has the whole second `s`. -/
def Time.Instant.OnCalendar (s : Int) : Prop :=
  Instant.firstSecond ≤ s ∧ s ≤ Instant.lastSecond

/-- The whole second so many seconds before that of `now`; `now` itself, if the calendar
    does not have it. -/
def Time.Instant.secondsBack (now : Instant) (back : Int) : Instant :=
  (Instant.ofSecond? (now.seconds - back)).getD now

/-- Two instants are the same number of seconds back from two clocks, and at most so many
    days. If the calendar has both, they are whole seconds, and as far apart as the seconds
    of the clocks. -/
def Time.Instant.EquallyFarBack (days : Nat) (now now' t t' : Instant) : Prop :=
  ∃ back : Int, 0 ≤ back ∧ back ≤ days * Instant.secondsPerDay ∧
    t = now.secondsBack back ∧ t' = now'.secondsBack back ∧
    (Instant.OnCalendar (now.seconds - back) → Instant.OnCalendar (now'.seconds - back) →
      t.nanos = 0 ∧ t'.nanos = 0 ∧ t'.seconds - t.seconds = now'.seconds - now.seconds)

namespace Time.Instant

theorem secondsBack_of_onCalendar {now : Instant} {back : Int}
    (h : OnCalendar (now.seconds - back)) : now.secondsBack back = ⟨now.seconds - back, 0⟩ := by
  have hrange : firstSecond ≤ now.seconds - back ∧ now.seconds - back ≤ lastSecond := h
  rw [secondsBack, ofSecond?, if_pos hrange]
  rfl

theorem equallyFarBack_secondsBack {days : Nat} {back : Int} (now now' : Instant)
    (hback : 0 ≤ back) (hdays : back ≤ days * secondsPerDay) :
    EquallyFarBack days now now' (now.secondsBack back) (now'.secondsBack back) := by
  refine ⟨back, hback, hdays, rfl, rfl, fun h h' => ?_⟩
  rw [secondsBack_of_onCalendar h, secondsBack_of_onCalendar h']
  refine ⟨rfl, rfl, ?_⟩
  show now'.seconds - back - (now.seconds - back) = now'.seconds - now.seconds
  omega

theorem EquallyFarBack.mono {days days' : Nat} {now now' t t' : Instant}
    (h : EquallyFarBack days now now' t t') (hle : days ≤ days') :
    EquallyFarBack days' now now' t t' := by
  obtain ⟨back, hback, hdays, ht⟩ := h
  refine ⟨back, hback, Int.le_trans hdays ?_, ht⟩
  exact Int.mul_le_mul_of_nonneg_right (Int.ofNat_le.2 hle) (by decide)

end Time.Instant

mutual

/-- How many days back the instants of a kind may lie. -/
def FieldKind.farthest : FieldKind → Nat
  | .recentInstant days => days.toNat
  | .nested fields => FieldKind.farthestOf fields
  | _ => 0

/-- How many days back the instants of some fields may lie. -/
def FieldKind.farthestOf : List (String × FieldKind) → Nat
  | [] => 0
  | (_, kind) :: fields => max kind.farthest (FieldKind.farthestOf fields)

end

section

variable {σ : Type} [WordSource σ] (now now' : Instant)

/-- So many seconds back, at most so many days. -/
def Field.drawBack (days : UInt32) : Draw σ Int64 :=
  let window : Int := days.toNat * Instant.secondsPerDay
  if 0 < window then intBetween 0 (Int64.ofInt window) else pure 0

theorem always_drawBack (days : UInt32) :
    Draw.Always (drawBack days : Draw σ Int64) fun back =>
      0 ≤ back.toInt ∧ back.toInt ≤ days.toNat * Instant.secondsPerDay := by
  unfold drawBack
  dsimp only
  split
  · next hpos =>
    have hle : (0 : Int64) ≤ Int64.ofInt (days.toNat * Instant.secondsPerDay) := by
      rw [Int64.le_iff_toInt_le, toInt_window]
      exact Int.le_of_lt hpos
    refine (always_intBetween hle).mono fun back hback => ?_
    rw [Int64.le_iff_toInt_le, Int64.le_iff_toInt_le, toInt_window] at hback
    exact hback
  · exact Draw.always_pure ⟨Int.le_refl 0, Int.mul_nonneg (Int.natCast_nonneg _) (by decide)⟩

/-- How far back a recent instant lies is drawn without a look at the clock. -/
theorem recentInstant_eq (now : Instant) (days : UInt32) :
    (recentInstant now days : Draw σ Instant) =
      (do let back ← drawBack days; pure (now.secondsBack back.toInt)) := by
  unfold recentInstant drawBack
  dsimp only
  split <;> rfl

theorem agree_recentInstant (days : UInt32) :
    Attempt.Agree (Instant.EquallyFarBack days.toNat now now')
      (Draw.attempt (recentInstant now days) : Attempt σ Instant)
      (Draw.attempt (recentInstant now' days)) := by
  rw [recentInstant_eq, recentInstant_eq]
  exact Attempt.agree_attempt (always_drawBack days) fun back hback =>
    Instant.equallyFarBack_secondsBack now now' hback.1 hback.2

theorem agree_randomKeys {leaf : Instant → Instant → Prop} (count keyLength low high : Nat) :
    Attempt.Agree (Record.Alike leaf)
      (Draw.attempt (Draw.times (randomEntry keyLength low high) count) :
        Attempt σ (List (String × Value)))
      (Draw.attempt (Draw.times (randomEntry keyLength low high) count)) :=
  Attempt.agree_attempt (f := id) (g := id)
    (Draw.always_times (always_randomEntry_text keyLength low high) count)
    fun _ h => .of_texts h.2

mutual

/-- A value of a kind, drawn with either clock. -/
theorem FieldKind.agree_draw : ∀ kind : FieldKind,
    Attempt.Agree (Value.Alike (Instant.EquallyFarBack kind.farthest now now'))
      (kind.draw now : Attempt σ Value) (kind.draw now')
  | .uuid | .letters _ | .alphanumeric _ | .template _ | .oneOf (_ :: _) => by
    rw [FieldKind.draw, FieldKind.draw]
    exact Attempt.agree_bind_self fun s => Attempt.agree_pure (.text s)
  | .oneOf [] => by
    rw [FieldKind.draw, FieldKind.draw]
    exact Attempt.agree_pure (.text "")
  | .intRange _ _ | .oneOfInt _ => by
    rw [FieldKind.draw, FieldKind.draw]
    exact Attempt.agree_bind_self fun _ => Attempt.agree_pure (.int _)
  | .floatRange _ _ => by
    rw [FieldKind.draw, FieldKind.draw]
    exact Attempt.agree_bind_self fun x => Attempt.agree_pure (.float x)
  | .bool => by
    rw [FieldKind.draw, FieldKind.draw]
    exact Attempt.agree_bind_self fun b => Attempt.agree_pure (.bool b)
  | .recentInstant days => by
    -- The only kind whose draw looks at the clock.
    rw [FieldKind.draw, FieldKind.draw, FieldKind.farthest]
    exact Attempt.agree_bind (agree_recentInstant now now' days) fun _ _ ht =>
      Attempt.agree_pure (.instant ht)
  | .selection _ _ _ | .textList _ _ _ => by
    rw [FieldKind.draw, FieldKind.draw]
    exact Attempt.agree_bind_self fun items => Attempt.agree_pure (.list items)
  | .nested fields => by
    rw [FieldKind.draw, FieldKind.draw, FieldKind.farthest]
    exact Attempt.agree_bind (FieldKind.agree_drawEntries fields) fun _ _ h =>
      Attempt.agree_pure (.map h.ofEntries)
  | .randomKeys count keyLength low high => by
    rw [FieldKind.draw, FieldKind.draw]
    exact Attempt.agree_bind (agree_randomKeys count keyLength low high) fun _ _ h =>
      Attempt.agree_pure (.map h.ofEntries)

/-- The entries of some fields, drawn with either clock. -/
theorem FieldKind.agree_drawEntries : ∀ fields : List (String × FieldKind),
    Attempt.Agree (Record.Alike (Instant.EquallyFarBack (FieldKind.farthestOf fields) now now'))
      (FieldKind.drawEntries now fields : Attempt σ (List (String × Value)))
      (FieldKind.drawEntries now' fields)
  | [] => by
    rw [FieldKind.drawEntries, FieldKind.drawEntries]
    exact Attempt.agree_pure .nil
  | (name, kind) :: fields => by
    rw [FieldKind.drawEntries, FieldKind.drawEntries, FieldKind.farthestOf]
    refine Attempt.agree_bind (FieldKind.agree_draw kind) fun v v' hv =>
      Attempt.agree_bind (FieldKind.agree_drawEntries fields) fun es es' hes =>
        Attempt.agree_pure (.cons (hv.mono fun _ _ ht => ht.mono (Nat.le_max_left _ _))
          (hes.mono fun _ _ ht => ht.mono (Nat.le_max_right _ _)))

end

/-- A record, drawn with either clock. -/
theorem agree_drawRecord (fields : List Field) :
    Attempt.Agree (Record.Alike (Instant.EquallyFarBack (FieldKind.farthestOf fields) now now'))
      (drawRecord now fields : Attempt σ Record) (drawRecord now' fields) :=
  Attempt.agree_bind (FieldKind.agree_drawEntries now now' fields) fun _ _ h =>
    Attempt.agree_pure h.ofEntries

end

end SyntheticLoad
