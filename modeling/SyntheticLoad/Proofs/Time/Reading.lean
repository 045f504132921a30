import SyntheticLoad.Proofs.Text.Cut
import SyntheticLoad.Proofs.Text.FixedWidth
import SyntheticLoad.Proofs.Time.Instant
import SyntheticLoad.Proofs.Time.Succession

/-!
# Reading date-times

A date-time is a date of the calendar and a time of day in universal time (`IsDateTime`). Its
year has four digits, or a sign and at least as many; a leap second is second 60; the decimals
are as few as are exact; and there is a `Z` at the end.

`Instant.read` cuts a text at what separates its numbers, reads the numbers, and counts the days
by the calendar. It reads a date-time as the instant that it is of (`IsDateTime.read_eq`), so no
text is a date-time of two instants. The text of an instant is a date-time of it, unless there
are more nanoseconds than its second can have (`isDateTime_text`).
-/

namespace SyntheticLoad.Time

open Text

/-! ### Date-times -/

/-- A numeral of two digits. -/
def IsPair (cs : List Char) (n : Nat) : Prop := cs.length = 2 ∧ IsNumeral cs n

/-- A year: four digits from 0 to 9999, and otherwise a sign and at least four digits. -/
inductive IsYear : List Char → Int → Prop
  | plain {cs : List Char} {n : Nat} : cs.length = 4 → IsNumeral cs n → IsYear cs n
  | minus {cs : List Char} {n : Nat} : 4 ≤ cs.length → IsNumeral cs n → 0 < n →
    IsYear ('-' :: cs) (-n)
  | plus {cs : List Char} {n : Nat} : 4 ≤ cs.length → IsNumeral cs n → 9999 < n →
    IsYear ('+' :: cs) n

/-- The decimals of a second, with the nanoseconds that they make up: none, or as few of 3, 6
    or 9 as are exact. -/
inductive IsFraction : List Char → Nat → Prop
  | none : IsFraction [] 0
  | decimals {cs : List Char} {n : Nat} : cs.length ∈ [3, 6, 9] → IsNumeral cs n →
    n % 1000 ≠ 0 → IsFraction ('.' :: cs) (n * 10 ^ (9 - cs.length))

/-- A date of the calendar. -/
inductive IsDate (d : Date) : List Char → Prop
  | mk {year month day : List Char} : IsYear year d.year → IsPair month d.month →
    IsPair day d.day → d.Valid → IsDate d (year ++ '-' :: (month ++ '-' :: day))

/-- A time of day, with its second of the day and the nanoseconds after that. A leap second
    belongs to the second before it. -/
inductive IsTime : Nat → Nat → List Char → Prop
  | mk {hour minute second fraction : List Char} {h m s nanos : Nat} :
    IsPair hour h → h < 24 → IsPair minute m → m < 60 → IsPair second s → s ≤ 60 →
    IsFraction fraction nanos →
    IsTime (h * 3600 + m * 60 + min s 59) (nanos + s / 60 * 1000000000)
      (hour ++ ':' :: (minute ++ ':' :: (second ++ fraction)))

/-- A date and a time of day that make up an instant. -/
inductive IsDateTime (t : Instant) : List Char → Prop
  | mk {d : Date} {second : Nat} {date time : List Char} : IsDate d date →
    IsTime second t.nanos time → t.seconds = d.dayNumber * Instant.secondsPerDay + second →
    IsDateTime t (date ++ 'T' :: (time ++ ['Z']))

/-! ### The reader -/

instance (d : Date) : Decidable d.Valid :=
  decidable_of_iff ((1 ≤ d.month ∧ d.month ≤ 12) ∧ 1 ≤ d.day ∧ HasDay d.year d.month d.day)
    ⟨fun h => ⟨h.1, h.2⟩, fun h => ⟨h.month, h.day⟩⟩

/-- The number that digits make up; there has to be at least one. -/
def readNumeral (cs : List Char) : Option Nat :=
  if !cs.isEmpty && cs.all Char.isDigit then some (Nat.ofDigitChars 10 cs 0) else none

/-- A year with a sign or without. -/
def readYear : List Char → Option Int
  | '-' :: cs => (readNumeral cs).map fun n => -(n : Int)
  | '+' :: cs => (readNumeral cs).map fun n => (n : Int)
  | cs => (readNumeral cs).map fun n => (n : Int)

/-- A date of the calendar. The first character may be the sign of the year. -/
def readDate : List Char → Option Date
  | [] => none
  | c :: cs => do
    let (year, rest) ← cut '-' cs
    let (month, day) ← cut '-' rest
    let date : Date := ⟨← readYear (c :: year), ← readNumeral month, ← readNumeral day⟩
    if date.Valid then some date else none

/-- The nanoseconds that decimals make up. -/
def readDecimals (cs : List Char) : Option Nat :=
  if cs.length ≤ 9 then (readNumeral cs).map fun n => n * 10 ^ (9 - cs.length) else none

/-- A second and the nanoseconds after it. -/
def readSecond (cs : List Char) : Option (Nat × Nat) :=
  match cut '.' cs with
  | none => (readNumeral cs).map fun s => (s, 0)
  | some (second, decimals) => do return (← readNumeral second, ← readDecimals decimals)

/-- A time of day: its second of the day and the nanoseconds after that. -/
def readTime (cs : List Char) : Option (Nat × Nat) := do
  let (hour, rest) ← cut ':' cs
  let (minute, second) ← cut ':' rest
  let h ← readNumeral hour
  let m ← readNumeral minute
  let (s, nanos) ← readSecond second
  if h < 24 ∧ m < 60 ∧ s ≤ 60 then
    some (h * 3600 + m * 60 + min s 59, nanos + s / 60 * 1000000000)
  else
    none

/-- The instant that a date and a time of day make up. -/
def Instant.read (cs : List Char) : Option Instant := do
  let (date, rest) ← cut 'T' cs
  let (time, rest) ← cut 'Z' rest
  let d ← readDate date
  let (second, nanos) ← readTime time
  if rest = [] then some ⟨d.dayNumber * secondsPerDay + second, nanos⟩ else none

/-! ### Date-times are read -/

theorem readNumeral_eq {cs : List Char} {n : Nat} (h : IsNumeral cs n) :
    readNumeral cs = some n := by
  obtain ⟨hne, hdigits, hvalue⟩ := h
  have hall : (!cs.isEmpty && cs.all Char.isDigit) = true := by
    rw [Bool.and_eq_true, Bool.not_eq_true', List.isEmpty_eq_false_iff, List.all_eq_true]
    exact ⟨hne, hdigits⟩
  rw [readNumeral, if_pos hall, hvalue]

theorem IsYear.read_eq {cs : List Char} {year : Int} (h : IsYear cs year) :
    ∃ c rest, cs = c :: rest ∧ '-' ∉ rest ∧ readYear (c :: rest) = some year := by
  cases h with
  | @plain cs n hlen h =>
    obtain ⟨c, rest, rfl⟩ := List.exists_cons_of_ne_nil h.1
    obtain ⟨hplus, hminus⟩ := h.not_sign
    refine ⟨c, rest, rfl, fun hmem => h.not_mem rfl (List.mem_cons_of_mem c hmem), ?_⟩
    rw [readYear, readNumeral_eq h]
    · rfl
    · exact fun _ heq => hminus (List.cons.inj heq).1
    · exact fun _ heq => hplus (List.cons.inj heq).1
  | @minus cs n hlen h hpos =>
    refine ⟨'-', cs, rfl, h.not_mem rfl, ?_⟩
    rw [readYear, readNumeral_eq h]
    rfl
  | @plus cs n hlen h hbeyond =>
    refine ⟨'+', cs, rfl, h.not_mem rfl, ?_⟩
    rw [readYear, readNumeral_eq h]
    rfl

theorem IsDate.read_eq {cs : List Char} {d : Date} (h : IsDate d cs) : readDate cs = some d := by
  obtain ⟨hyear, hmonth, hday, hvalid⟩ := h
  obtain ⟨c, rest, rfl, hrest, hread⟩ := hyear.read_eq
  have hcut := cut_append_cons (hmonth.2.not_mem (c := '-') rfl)
  rw [List.cons_append, readDate, cut_append_cons hrest]
  simp [hcut, hread, readNumeral_eq hmonth.2, readNumeral_eq hday.2, hvalid]

theorem readSecond_eq {second fraction : List Char} {s nanos : Nat} (hs : IsPair second s)
    (hf : IsFraction fraction nanos) : readSecond (second ++ fraction) = some (s, nanos) := by
  have hpoint : '.' ∉ second := hs.2.not_mem rfl
  cases hf with
  | none =>
    rw [List.append_nil, readSecond, cut_eq_none hpoint]
    simp [readNumeral_eq hs.2]
  | @decimals cs n hlen h hleast =>
    have hle : cs.length ≤ 9 := by
      simp only [List.mem_cons, List.not_mem_nil, or_false] at hlen
      omega
    rw [readSecond, cut_append_cons hpoint]
    simp [readNumeral_eq hs.2, readDecimals, hle, readNumeral_eq h]

theorem IsTime.read_eq {cs : List Char} {second nanos : Nat} (h : IsTime second nanos cs) :
    readTime cs = some (second, nanos) := by
  obtain ⟨hh, hhour, hm, hminute, hs, hsecond, hf⟩ := h
  have hcut := cut_append_cons (hm.2.not_mem (c := ':') rfl)
  rw [readTime, cut_append_cons (hh.2.not_mem (c := ':') rfl)]
  simp [hcut, readNumeral_eq hh.2, readNumeral_eq hm.2, readSecond_eq hs hf, hhour, hminute,
    hsecond]

/-- What is no digit and no sign stands in no year. -/
theorem IsYear.not_mem {cs : List Char} {year : Int} (h : IsYear cs year) {c : Char}
    (hdigit : c.isDigit = false) (hplus : c ≠ '+') (hminus : c ≠ '-') : c ∉ cs := by
  cases h with
  | plain _ h => exact h.not_mem hdigit
  | minus _ h _ => exact List.not_mem_cons_of_ne_of_not_mem hminus (h.not_mem hdigit)
  | plus _ h _ => exact List.not_mem_cons_of_ne_of_not_mem hplus (h.not_mem hdigit)

theorem IsFraction.not_mem {cs : List Char} {nanos : Nat} (h : IsFraction cs nanos) {c : Char}
    (hdigit : c.isDigit = false) (hpoint : c ≠ '.') : c ∉ cs := by
  cases h with
  | none => exact List.not_mem_nil
  | decimals _ h _ => exact List.not_mem_cons_of_ne_of_not_mem hpoint (h.not_mem hdigit)

theorem IsDate.not_mem {cs : List Char} {d : Date} (h : IsDate d cs) : 'T' ∉ cs := by
  obtain ⟨hyear, hmonth, hday, -⟩ := h
  have hyear' := hyear.not_mem (c := 'T') rfl (by decide) (by decide)
  simp [hyear', hmonth.2.not_mem, hday.2.not_mem]

theorem IsTime.not_mem {cs : List Char} {second nanos : Nat} (h : IsTime second nanos cs) :
    'Z' ∉ cs := by
  obtain ⟨hh, -, hm, -, hs, -, hf⟩ := h
  have hf' := hf.not_mem (c := 'Z') rfl (by decide)
  simp [hh.2.not_mem, hm.2.not_mem, hs.2.not_mem, hf']

/-- A date-time is read as the instant that it is of. -/
theorem IsDateTime.read_eq {cs : List Char} {t : Instant} (h : IsDateTime t cs) :
    Instant.read cs = some t := by
  obtain ⟨hdate, htime, hseconds⟩ := h
  have hcut := cut_append_cons htime.not_mem
  rw [Instant.read, cut_append_cons hdate.not_mem]
  simp [hcut, hdate.read_eq, htime.read_eq, ← hseconds]

/-! ### Texts of instants -/

/-- The nanoseconds of an instant are less than a second, or less than two in the last second
    of a minute, where there may be a leap second. -/
def Instant.Valid (t : Instant) : Prop :=
  t.nanos < 1000000000 ∨ t.nanos < 2000000000 ∧ t.seconds % 60 = 59

theorem isPair_padded {n : Nat} (h : n < 100) : IsPair (padded 2 n) n :=
  ⟨length_padded (by decide) h, isNumeral_padded 2 n⟩

theorem isYear_yearText (year : Int) : IsYear (Instant.yearText year) year := by
  rw [Instant.yearText]
  split
  · next h =>
    have hyear : year = (year.toNat : Int) := by omega
    have hlen : (padded 4 year.toNat).length = 4 := length_padded (by decide) (by omega)
    have hplain := IsYear.plain hlen (isNumeral_padded 4 year.toNat)
    rwa [← hyear] at hplain
  split
  · have hyear : year = -((-year).toNat : Int) := by omega
    have hminus := IsYear.minus (le_length_padded 4 _) (isNumeral_padded 4 (-year).toNat) (by omega)
    rwa [← hyear] at hminus
  · have hyear : year = (year.toNat : Int) := by omega
    have hplus := IsYear.plus (le_length_padded 4 _) (isNumeral_padded 4 year.toNat) (by omega)
    rwa [← hyear] at hplus

/-- A group of three decimals is left out if there are only zeros in it and in those behind it. -/
theorem isFraction_padded (width n : Nat) (hwidth : width ∈ [3, 6, 9]) (hn : n < 10 ^ width)
    (hleast : n % 1000 ≠ 0) : IsFraction ('.' :: padded width n) (n * 10 ^ (9 - width)) := by
  have hpos : 0 < width := by
    simp only [List.mem_cons, List.not_mem_nil, or_false] at hwidth
    omega
  have hlen := length_padded hpos hn
  have hdecimals := IsFraction.decimals (hlen.symm ▸ hwidth) (isNumeral_padded width n) hleast
  rwa [hlen] at hdecimals

theorem isFraction_fractionText {nanos : Nat} (h : nanos < 1000000000) :
    IsFraction (Instant.fractionText nanos) nanos := by
  rw [Instant.fractionText]
  split
  · next hzero =>
    rw [hzero]
    exact .none
  split
  · next hne hmillis =>
    have hvalue : nanos / 1000000 * 10 ^ (9 - 3) = nanos :=
      Nat.div_mul_cancel (Nat.dvd_of_mod_eq_zero hmillis)
    have hfraction := isFraction_padded 3 (nanos / 1000000) (by simp) (by omega) (by omega)
    rwa [hvalue] at hfraction
  split
  · next hne hmillis hmicros =>
    have hvalue : nanos / 1000 * 10 ^ (9 - 6) = nanos :=
      Nat.div_mul_cancel (Nat.dvd_of_mod_eq_zero hmicros)
    have hfraction := isFraction_padded 6 (nanos / 1000) (by simp) (by omega) (by omega)
    rwa [hvalue] at hfraction
  · have hvalue : nanos * 10 ^ (9 - 9) = nanos := Nat.mul_one nanos
    have hfraction := isFraction_padded 9 nanos (by simp) (by omega) (by omega)
    rwa [hvalue] at hfraction

theorem isDate_text {d : Date} (h : d.Valid) : IsDate d
    (Instant.yearText d.year ++ '-' :: (padded 2 d.month ++ '-' :: padded 2 d.day)) := by
  have hmonth := h.month.2
  have hday := h.day_le
  exact .mk (isYear_yearText _) (isPair_padded (by omega)) (isPair_padded (by omega)) h

/-- The text of an instant is a date-time of it. -/
theorem isDateTime_text {t : Instant} (h : t.Valid) : IsDateTime t t.text := by
  obtain ⟨hour, minute, second, hhour, hminute, hsecond, hseconds, htext⟩ := t.text_eq
  have hdate := isDate_text (dateOfDay_valid t.day)
  -- A leap second is the second after the last one of its minute.
  have hleap : second + t.nanos / 1000000000 ≤ 60 ∧
      min (second + t.nanos / 1000000000) 59 = second ∧ t.nanos % 1000000000 +
        (second + t.nanos / 1000000000) / 60 * 1000000000 = t.nanos := by
    rw [Instant.secondsPerDay] at hseconds
    rcases h with h | ⟨h, hlast⟩ <;> omega
  have htime := IsTime.mk (isPair_padded (by omega)) hhour (isPair_padded (by omega)) hminute
    (isPair_padded (by omega)) hleap.1 (isFraction_fractionText (Nat.mod_lt t.nanos (by decide)))
  rw [hleap.2.1, hleap.2.2] at htime
  have hall := IsDateTime.mk hdate htime (by rw [dayNumber_dateOfDay, hseconds])
  rw [htext]
  simpa only [List.append_assoc, List.cons_append] using hall

end SyntheticLoad.Time
