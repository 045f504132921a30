import SyntheticLoad.Proofs.Text.ByteOrder
import SyntheticLoad.Proofs.Time.Order
import SyntheticLoad.Proofs.Time.Reading

/-!
# Texts of instants are lossless

The text of an instant is a date-time, and it is read back as the instant, so different
instants have different texts. Among whole seconds of the years from 0 to 9999 all texts have
their numbers at the same places, in the order in which they count, and later days have later
dates. So there the texts, and their bytes, are in the order of the instants
(`Instant.text_lt_text`).
-/

namespace SyntheticLoad.Time

open Text

/-- A whole second of a year with four digits. -/
structure Instant.IsPlain (t : Instant) : Prop where
  year : 0 ≤ (dateOfDay t.day).year ∧ (dateOfDay t.day).year ≤ 9999
  nanos : t.nanos = 0

/-! ### The order of texts -/

/-- Behind equal numerals and the same separator, what follows decides. -/
theorem padded_cons_lt {width m n : Nat} (hwidth : 0 < width) (hn : n < 10 ^ width) {sep : Char}
    {xs ys : List Char} (h : m < n ∨ m = n ∧ xs < ys) :
    padded width m ++ sep :: xs < padded width n ++ sep :: ys :=
  padded_append_lt hwidth hn (h.imp_right (And.imp_right fun hlt =>
    List.cons_lt_cons_iff.2 (.inr ⟨rfl, hlt⟩)))

/-- The text of a plain instant, number by number. -/
theorem Instant.IsPlain.text_eq {t : Instant} (h : t.IsPlain) : ∃ hour minute second : Nat,
    hour < 24 ∧ minute < 60 ∧ second < 60 ∧
    t.seconds = t.day * secondsPerDay + (hour * 3600 + minute * 60 + second : Nat) ∧
    t.text = padded 4 (dateOfDay t.day).year.toNat ++ '-' :: (padded 2 (dateOfDay t.day).month ++
      '-' :: (padded 2 (dateOfDay t.day).day ++ 'T' :: (padded 2 hour ++ ':' :: (padded 2 minute ++
      ':' :: (padded 2 second ++ 'Z' :: []))))) := by
  obtain ⟨hour, minute, second, hhour, hminute, hsecond, hseconds, htext⟩ := Instant.text_eq t
  refine ⟨hour, minute, second, hhour, hminute, hsecond, hseconds, ?_⟩
  rw [htext, yearText, if_pos h.year, h.nanos]
  simp only [Nat.zero_div, Nat.zero_mod, Nat.add_zero, fractionText, if_true, List.append_assoc,
    List.cons_append, List.nil_append]

/-- The later of two plain instants has the greater text. -/
theorem Instant.text_lt_text {t t' : Instant} (h : t.IsPlain) (h' : t'.IsPlain) (hlt : t < t') :
    t.text < t'.text := by
  obtain ⟨hour, minute, second, hhour, hminute, hsecond, hseconds, htext⟩ := h.text_eq
  obtain ⟨hour', minute', second', hhour', hminute', hsecond', hseconds', htext'⟩ := h'.text_eq
  have hless : t.seconds < t'.seconds := by
    rw [Instant.lt_iff, h.nanos, h'.nanos] at hlt
    omega
  rw [secondsPerDay] at hseconds hseconds'
  have hdate : dateOfDay t.day < dateOfDay t'.day ∨ dateOfDay t.day = dateOfDay t'.day ∧
      (hour < hour' ∨ hour = hour' ∧ (minute < minute' ∨ minute = minute' ∧ second < second')) := by
    rcases lt_trichotomy t.day t'.day with hday | hday | hday
    · exact .inl (dateOfDay_lt_dateOfDay hday)
    · exact .inr ⟨congrArg dateOfDay hday, by omega⟩
    · omega
  rw [htext, htext']
  have hyear := h.year
  have hyear' := h'.year
  have hvalid := dateOfDay_valid t'.day
  generalize dateOfDay t.day = d, dateOfDay t'.day = d' at *
  -- The first number that differs decides, be it one of the date or of the time of day.
  have hfirst : d.year.toNat < d'.year.toNat ∨ d.year.toNat = d'.year.toNat ∧
      (d.month < d'.month ∨ d.month = d'.month ∧ (d.day < d'.day ∨ d.day = d'.day ∧
        (hour < hour' ∨ hour = hour' ∧
          (minute < minute' ∨ minute = minute' ∧ second < second')))) := by
    rcases hdate with hdate | ⟨rfl, htime⟩
    · rw [Date.lt_iff] at hdate
      omega
    · exact .inr ⟨rfl, .inr ⟨rfl, .inr ⟨rfl, htime⟩⟩⟩
  have hmonth := hvalid.month.2
  have hday := hvalid.day_le
  refine padded_cons_lt (by decide) (by omega) (hfirst.imp_right (And.imp_right fun hrest => ?_))
  refine padded_cons_lt (by decide) (by omega) (hrest.imp_right (And.imp_right fun hrest => ?_))
  refine padded_cons_lt (by decide) (by omega) (hrest.imp_right (And.imp_right fun hrest => ?_))
  refine padded_cons_lt (by decide) (by omega) (hrest.imp_right (And.imp_right fun hrest => ?_))
  refine padded_cons_lt (by decide) (by omega) (hrest.imp_right (And.imp_right fun hrest => ?_))
  exact padded_cons_lt (by decide) (by omega) (.inl hrest)

/-- The bytes of the texts of plain instants are in the order of the instants. -/
theorem Instant.utf8_text_lt_iff {t t' : Instant} (h : t.IsPlain) (h' : t'.IsPlain) :
    utf8 (String.ofList t.text) < utf8 (String.ofList t'.text) ↔ t < t' := by
  have hbytes : ∀ {t t' : Instant}, t.IsPlain → t'.IsPlain → t < t' →
      utf8 (String.ofList t.text) < utf8 (String.ofList t'.text) := fun h h' hlt => by
    refine utf8_lt_utf8 ?_
    show (String.ofList _).toList < (String.ofList _).toList
    rw [String.toList_ofList, String.toList_ofList]
    exact Instant.text_lt_text h h' hlt
  refine ⟨fun hlt => ?_, hbytes h h'⟩
  rcases lt_trichotomy t t' with hless | rfl | hgreater
  · exact hless
  · exact absurd hlt (List.lt_irrefl _)
  · exact absurd hlt (List.lt_asymm (hbytes h' h hgreater))

/-- **Texts of instants are lossless.** The text of an instant is a date-time of it, and it is
    read as the instant, whatever the year, with decimals or without, in a leap second or not.
    So different instants have different texts. The bytes of the texts of whole seconds of the
    years from 0 to 9999 are in the order of the instants. The days that a date is counted and
    read by start with 1970-01-01 and go on date by date. -/
theorem instant_text_lossless :
    (∀ t : Instant, t.Valid → IsDateTime t t.text ∧ Instant.read t.text = some t) ∧
    (∀ t t' : Instant, t.Valid → t'.Valid → t ≠ t' → t.text ≠ t'.text) ∧
    (∀ t t' : Instant, t.IsPlain → t'.IsPlain →
      (utf8 (String.ofList t.text) < utf8 (String.ofList t'.text) ↔ t < t')) ∧
    (Date.mk 1970 1 1).dayNumber = 0 ∧
    ∀ d : Date, d.Valid → d.next.Valid ∧ d.next.dayNumber = d.dayNumber + 1 := by
  have hread : ∀ t : Instant, t.Valid → Instant.read t.text = some t :=
    fun t ht => (isDateTime_text ht).read_eq
  refine ⟨fun t ht => ⟨isDateTime_text ht, hread t ht⟩, fun t t' ht ht' hne heq => hne ?_,
    fun t t' ht ht' => Instant.utf8_text_lt_iff ht ht', by rfl,
    fun d hd => ⟨hd.next, dayNumber_next hd⟩⟩
  have hsame := hread t ht
  rw [heq, hread t' ht'] at hsame
  exact (Option.some.inj hsame).symm

/-- In the middle of a leap second, and at the two ends of the years with four digits. -/
theorem instant_text_lossless_of_leap_second :
    let t : Instant := ⟨1483228799, 1500000000⟩
    let first : Instant := ⟨-62167219200, 0⟩
    let last : Instant := ⟨253402300799, 0⟩
    (t.Valid ∧ Instant.read t.text = some t) ∧ (first.Valid ∧ t ≠ first ∧ t.text ≠ first.text) ∧
      (first.IsPlain ∧ last.IsPlain ∧
        utf8 (String.ofList first.text) < utf8 (String.ofList last.text)) ∧
      (Date.mk 1900 2 28).Valid ∧ (Date.mk 1900 2 28).next.dayNumber =
        (Date.mk 1900 2 28).dayNumber + 1 := by
  intro t first last
  obtain ⟨hread, hdiffer, horder, -, hnext⟩ := instant_text_lossless
  have ht : t.Valid := .inr (by decide)
  have hfirst : first.Valid := .inl (by decide)
  have hne : t ≠ first := by decide
  have hplain : first.IsPlain := ⟨by decide, rfl⟩
  have hplain' : last.IsPlain := ⟨by decide, rfl⟩
  have hlt : first < last := Instant.lt_iff.2 (.inl (by decide))
  have hdate : (Date.mk 1900 2 28).Valid := by decide
  exact ⟨⟨ht, (hread t ht).2⟩, ⟨hfirst, hne, hdiffer t first ht hfirst hne⟩,
    ⟨hplain, hplain', (horder first last hplain hplain').2 hlt⟩, hdate, (hnext _ hdate).2⟩

end SyntheticLoad.Time
