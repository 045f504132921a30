import SyntheticLoad.Proofs.Random.Agreement
import SyntheticLoad.Proofs.Template.Division
import SyntheticLoad.Proofs.Template.Grammar
import SyntheticLoad.Random.Script

/-!
# What templates are replaced with, and when they break off

A slot whose token is no placeholder is copied and reads nothing off the source
(`Segment.expand_copied`), so a template without placeholders is its own text. Every placeholder is
filled from every state, with one exception: an integer whose field is wider than the widest one
(`Segment.TooWide`). Its number is drawn and the attempt then breaks off, from every state alike.

So a template returns exactly if none of its slots is too wide, and otherwise it is the first
slot of that kind that breaks it off (`template_breaks_off_iff`).
-/

namespace SyntheticLoad.Field

open SyntheticLoad.Random

/-! ### Widths -/

/-- Whether the numbers of a placeholder fit into the widest field. -/
def Placeholder.fits : Placeholder → Bool
  | .int _ _ width => width ≤ widestField
  | _ => true

/-- Whether what a slot is filled with fits into the widest field. -/
def Segment.fits : Segment → Bool
  | .plain _ => true
  | .slot token => (Placeholder.ofToken? token).all Placeholder.fits

/-- A piece is a slot for integers in a field that is wider than the widest one. -/
def Segment.TooWide (segment : Segment) (width : Nat) : Prop :=
  ∃ token low high, segment = .slot token ∧ PlaceholderText (.int low high width) token ∧
    widestField < width

theorem Placeholder.fits_iff {p : Placeholder} :
    p.fits ↔ ∀ low high width, p = .int low high width → width ≤ widestField := by
  rcases p with _ | _ | _ | _ | _ | ⟨low, high, width⟩ | _ <;> simp [fits]

theorem Segment.fits_iff {segment : Segment} :
    segment.fits ↔ ∀ width, ¬segment.TooWide width := by
  rcases segment with text | token
  · simp [fits, TooWide]
  simp only [fits, Option.all_eq_true, Placeholder.ofToken?_eq_some_iff, Placeholder.fits_iff]
  constructor
  · rintro h width ⟨_, low, high, ⟨⟩, htext, hwidth⟩
    exact absurd (h _ htext low high width rfl) (Nat.not_le.2 hwidth)
  · rintro h _ htext low high width rfl
    exact Nat.not_lt.1 fun hwidth => h width ⟨token, low, high, rfl, htext, hwidth⟩

theorem Segment.all_fits_iff {segments : List Segment} :
    segments.all fits ↔ ∀ segment ∈ segments, ∀ width, ¬segment.TooWide width := by
  simp [List.all_eq_true, fits_iff]

section

variable {σ : Type} [WordSource σ]

/-! ### Returning -/

theorem returns_fill {p : Placeholder} (h : p.fits) :
    Attempt.Returns (p.fill : Attempt σ String) := by
  cases p with
  | uuid => exact Attempt.returns_attempt _
  | letters n => exact Attempt.returns_attempt _
  | lower n => exact Attempt.returns_attempt _
  | alnum n => exact Attempt.returns_attempt _
  | capital n => exact Attempt.returns_attempt _
  | int low high width =>
    have hw : ¬widestField < width := Nat.not_lt.2 (of_decide_eq_true h)
    refine Attempt.returns_bind (Attempt.returns_attempt _) fun n => ?_
    rw [if_neg hw]
    exact Attempt.returns_pure _
  | pick first others =>
    exact Attempt.returns_bind (Attempt.returns_attempt _) fun _ => Attempt.returns_pure _

theorem returns_expand {s : Segment} (h : s.fits) :
    Attempt.Returns (s.expand : Attempt σ String) := by
  cases s with
  | plain text => exact Attempt.returns_pure _
  | slot token =>
    simp only [Segment.fits] at h
    simp only [Segment.expand]
    cases hp : Placeholder.ofToken? token with
    | none => exact Attempt.returns_pure _
    | some p =>
      rw [hp] at h
      exact returns_fill h

theorem returns_expandAll {segments : List Segment} (h : segments.all Segment.fits) :
    Attempt.Returns (Segment.expandAll segments : Attempt σ String) := by
  induction segments with
  | nil => exact Attempt.returns_pure _
  | cons s rest ih =>
    rw [List.all_cons, Bool.and_eq_true] at h
    exact Attempt.returns_bind (returns_expand h.1) fun _ =>
      Attempt.returns_bind (ih h.2) fun _ => Attempt.returns_pure _

namespace Segment

/-! ### Copying -/

theorem expand_slot {token : List Char} {p : Placeholder} (h : PlaceholderText p token) :
    ((slot token).expand : Attempt σ String) = p.fill := by
  rw [expand, Placeholder.ofToken?_of_text h]

/-- What is no placeholder is copied with its braces. -/
theorem expand_copied {token : List Char} (h : ∀ p, ¬PlaceholderText p token) :
    ((slot token).expand : Attempt σ String) = pure (String.ofList (slot token).source) := by
  rw [expand, Placeholder.ofToken?_eq_none_iff.2 h]
  rfl

/-- Pieces without placeholders are replaced with their own characters. -/
theorem expandAll_copied {segments : List Segment}
    (h : ∀ token, slot token ∈ segments → ∀ p, ¬PlaceholderText p token) :
    (expandAll segments : Attempt σ String) =
      pure (String.ofList (segments.flatMap source)) := by
  induction segments with
  | nil => rfl
  | cons segment segments ih =>
    have hrest := ih fun token htoken => h token (List.mem_cons_of_mem _ htoken)
    have hfirst : (segment.expand : Attempt σ String) = pure (String.ofList segment.source) := by
      rcases segment with text | token
      · rfl
      · exact expand_copied (h token List.mem_cons_self)
    rw [expandAll, hfirst, hrest]
    simp

/-! ### Breaking off -/

/-- A field that is too wide breaks off, whatever is drawn for it. -/
theorem TooWide.run_expand {segment : Segment} {width : Nat} (h : segment.TooWide width) (s : σ) :
    segment.expand.run s = .error (.fieldTooWide width) := by
  obtain ⟨token, low, high, rfl, htext, hwidth⟩ := h
  rw [expand_slot htext, Placeholder.fill, StateT.run_bind]
  simp only [if_pos hwidth]
  rfl

/-- Pieces break off where the first of them does. -/
theorem TooWide.run_expandAll {segment : Segment} {width : Nat} (h : segment.TooWide width)
    {before : List Segment} (hbefore : before.all fits) (after : List Segment) (s : σ) :
    (expandAll (before ++ segment :: after)).run s = .error (.fieldTooWide width) := by
  induction before generalizing s with
  | nil => exact Attempt.run_bind_eq_error (h.run_expand s)
  | cons earlier before ih =>
    rw [List.all_cons, Bool.and_eq_true] at hbefore
    obtain ⟨text, s', hs⟩ := returns_expand hbefore.1 s
    rw [List.cons_append, expandAll, Attempt.run_bind_of_ok hs]
    exact Attempt.run_bind_eq_error (ih hbefore.2 s')

/-- Either no piece is too wide, or there is a first one that is. -/
theorem all_fits_or_first_tooWide (segments : List Segment) :
    segments.all fits ∨ ∃ before segment after width, segments = before ++ segment :: after ∧
      before.all fits ∧ segment.TooWide width := by
  induction segments with
  | nil => exact .inl rfl
  | cons segment segments ih =>
    by_cases hfits : segment.fits
    · rcases ih with hall | ⟨before, wide, after, width, rfl, hbefore, hwide⟩
      · exact .inl (by simp [hfits, hall])
      · exact .inr ⟨segment :: before, wide, after, width, rfl, by simp [hfits, hbefore], hwide⟩
    · obtain ⟨width, hwide⟩ := Classical.not_forall_not.1 (mt fits_iff.2 hfits)
      exact .inr ⟨[], segment, segments, width, rfl, rfl, hwide⟩

/-- So pieces return, or the first piece that is too wide breaks them off. -/
theorem run_expandAll_cases (segments : List Segment) (s : σ) :
    (segments.all fits ∧ ∃ text s', (expandAll segments).run s = .ok (text, s')) ∨
      ∃ before segment after width, segments = before ++ segment :: after ∧ before.all fits ∧
        segment.TooWide width ∧ (expandAll segments).run s = .error (.fieldTooWide width) := by
  rcases all_fits_or_first_tooWide segments with
    hfits | ⟨before, segment, after, width, rfl, hbefore, hwide⟩
  · exact .inl ⟨hfits, returns_expandAll hfits s⟩
  · exact .inr ⟨before, segment, after, width, rfl, hbefore, hwide,
      hwide.run_expandAll hbefore after s⟩

end Segment

end

/-- **What the grammar has is filled, and all else is copied.** A token is recognized exactly if
    it names a placeholder, and as the one that it names; unless the field of an integer is too
    wide, it is then filled from every state. What is not recognized is copied with its braces,
    and the source is left as it was. So a template in which no slot is recognized stays as it
    is, and reads nothing. -/
theorem placeholders_recognized {σ : Type} [WordSource σ] :
    (∀ (token : List Char) (p : Placeholder),
      Placeholder.ofToken? token = some p ↔ PlaceholderText p token) ∧
    (∀ (token : List Char) (p : Placeholder) (s : σ), PlaceholderText p token → p.fits →
      ∃ text s', p.fill.run s = .ok (text, s') ∧
        (Segment.slot token).expand.run s = .ok (text, s')) ∧
    (∀ (token : List Char) (s : σ), (∀ p, ¬PlaceholderText p token) →
      Placeholder.ofToken? token = none ∧ (Segment.slot token).expand.run s =
        .ok (String.ofList ('\x7b' :: token ++ ['\x7d']), s)) ∧
    ∀ (template : String) (segments : List Segment) (s : σ),
      Division template.toList segments →
      (∀ token, .slot token ∈ segments → ∀ p, ¬PlaceholderText p token) →
      (expandTemplate template).run s = .ok (template, s) := by
  refine ⟨fun token p => Placeholder.ofToken?_eq_some_iff, fun token p s htext hfits => ?_,
    fun token s hnone => ?_, fun template segments s hdivision hnone => ?_⟩
  · obtain ⟨text, s', hs⟩ := returns_fill hfits s
    rw [Segment.expand_slot htext]
    exact ⟨text, s', hs, hs⟩
  · rw [Segment.expand_copied hnone]
    exact ⟨Placeholder.ofToken?_eq_none_iff.2 hnone, rfl⟩
  · rw [expandTemplate, Segment.split_eq_iff.2 hdivision, Segment.expandAll_copied hnone,
      Segment.flatMap_source hdivision, String.ofList_toList]
    rfl

/-- A bound may be zero with a minus sign, but then the other one has to be zero too. -/
theorem placeholders_recognized_of_signs :
    let zeros := "int:+0--0:03".toList
    let empty := "int:3--0".toList
    let s := Script.ofList [9, 7]
    PlaceholderText (.int 0 0 3) zeros ∧
      (∃ text s', (Segment.slot zeros).expand.run s = .ok (text, s')) ∧
      (∀ p, ¬PlaceholderText p empty) ∧
      (Segment.slot empty).expand.run s = .ok ("\x7bint:3--0\x7d", s) ∧
      (expandTemplate "é\x7bint:3--0\x7d\x7bletters:\x7b").run s =
        .ok ("é\x7bint:3--0\x7d\x7bletters:\x7b", s) := by
  intro zeros empty s
  have hrecognized := placeholders_recognized (σ := Script)
  have hzeros : PlaceholderText (.int 0 0 3) zeros := (hrecognized.1 _ _).1 (by decide)
  have hempty : ∀ p, ¬PlaceholderText p empty :=
    Placeholder.ofToken?_eq_none_iff.1 (by decide)
  have hdivision : Division "é\x7bint:3--0\x7d\x7bletters:\x7b".toList
      [.plain ['é'], .slot empty, .plain "\x7bletters:\x7b".toList] :=
    Segment.split_eq_iff.1 (by decide)
  obtain ⟨text, s', -, hs⟩ := hrecognized.2.1 zeros _ s hzeros (by decide)
  refine ⟨hzeros, ⟨text, s', hs⟩, hempty, (hrecognized.2.2.1 empty s hempty).2,
    hrecognized.2.2.2 _ _ s hdivision fun token htoken => ?_⟩
  simp only [List.mem_cons, Segment.slot.injEq, reduceCtorEq, List.not_mem_nil, or_false,
    false_or] at htoken
  exact htoken ▸ hempty

/-- **Only a field that is too wide breaks off.** A template returns from a state exactly if none
    of its slots is an integer in a field that is too wide. Otherwise it breaks off, and the fault
    is the width of the first such slot. No other slot can be at fault, as what is no placeholder
    is copied. -/
theorem template_breaks_off_iff {σ : Type} [WordSource σ] {template : String}
    {segments : List Segment} (h : Division template.toList segments) (s : σ) :
    ((∃ text s', (expandTemplate template).run s = .ok (text, s')) ↔
      ∀ segment ∈ segments, ∀ width, ¬segment.TooWide width) ∧
    (∀ fault, (expandTemplate template).run s = .error fault ↔
      ∃ before segment after width, segments = before ++ segment :: after ∧
        (∀ earlier ∈ before, ∀ w, ¬earlier.TooWide w) ∧ segment.TooWide width ∧
        fault = .fieldTooWide width) ∧
    ∀ token, (∀ p, ¬PlaceholderText p token) → (Segment.slot token).expand.run s =
      .ok (String.ofList ('\x7b' :: token ++ ['\x7d']), s) := by
  have hrun : (expandTemplate template : Attempt σ String) = Segment.expandAll segments := by
    rw [expandTemplate, Segment.split_eq_iff.2 h]
  simp only [hrun, ← Segment.all_fits_iff]
  refine ⟨⟨fun ⟨text, s', hok⟩ => ?_, fun hfits => returns_expandAll hfits s⟩,
    fun fault => ⟨fun herror => ?_, ?_⟩, fun token hnone => ?_⟩
  · rcases Segment.run_expandAll_cases segments s with
      ⟨hfits, -⟩ | ⟨before, segment, after, width, -, -, -, hs⟩
    · exact hfits
    · simp [hs] at hok
  · rcases Segment.run_expandAll_cases segments s with
      ⟨-, text, s', hs⟩ | ⟨before, segment, after, width, hsegments, hbefore, hwide, hs⟩
    · simp [hs] at herror
    · rw [hs, Except.error.injEq] at herror
      exact ⟨before, segment, after, width, hsegments, hbefore, hwide, herror.symm⟩
  · rintro ⟨before, segment, after, width, rfl, hbefore, hwide, rfl⟩
    exact hwide.run_expandAll hbefore after s
  · rw [Segment.expand_copied hnone]
    rfl

/-- The slot before the field that is too wide is copied, and the one behind it is not reached. -/
theorem template_breaks_off_of_wide_field :
    let template := "\x7bletters:x\x7d\x7bint:7-7:65536\x7d\x7buuid\x7d"
    Division template.toList
        [.slot "letters:x".toList, .slot "int:7-7:65536".toList, .slot "uuid".toList] ∧
      (expandTemplate template).run (Script.ofList [9, 7]) = .error (.fieldTooWide 65536) := by
  intro template
  have hdivision : Division template.toList
      [.slot "letters:x".toList, .slot "int:7-7:65536".toList, .slot "uuid".toList] :=
    Segment.split_eq_iff.1 (by decide)
  have hwide : (Segment.slot "int:7-7:65536".toList).TooWide 65536 :=
    ⟨_, 7, 7, rfl, Placeholder.text_of_ofToken? (by decide), by decide⟩
  refine ⟨hdivision, ((template_breaks_off_iff hdivision _).2.1 _).2
    ⟨[.slot "letters:x".toList], _, _, 65536, rfl, fun earlier hearlier => ?_, hwide, rfl⟩⟩
  rw [List.mem_singleton.1 hearlier]
  exact Segment.fits_iff.1 (by decide)

end SyntheticLoad.Field
