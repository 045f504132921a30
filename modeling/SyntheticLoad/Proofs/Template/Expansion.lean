import Mathlib.Data.List.Forall2
import SyntheticLoad.Proofs.Field.Primitives
import SyntheticLoad.Proofs.Field.Uuid
import SyntheticLoad.Proofs.Template.Recognition
import SyntheticLoad.Random.Script

/-!
# The texts of a template

What a placeholder may be filled with is said for each of them (`Placeholder.Admits`), and what
may stand in the place of a piece in terms of it (`Segment.Yields`). A text after a template is
one text for each piece of the template's division, in order (`template_texts`). The texts are
not divided again: the division is that of the template, whatever braces are picked for a slot.

As the sources are read from left to right as well, a template that is put together from two is
replaced with the texts of both, drawn in turn (`joined_templates_draw_in_turn`).
-/

namespace SyntheticLoad.Field

open SyntheticLoad.Random Text

/-! ### Placeholders -/

/-- The texts that a placeholder may be filled with. -/
inductive Placeholder.Admits : Placeholder → String → Prop
  | uuid {s : String} : IsIdentifier s.toList → Placeholder.Admits .uuid s
  | letters {n : Nat} {s : String} :
    IsWord Char.isAlpha n s → Placeholder.Admits (.letters n) s
  | lower {n : Nat} {s : String} : IsWord Char.isLower n s → Placeholder.Admits (.lower n) s
  | alnum {n : Nat} {s : String} :
    IsWord Char.isAlphanum n s → Placeholder.Admits (.alnum n) s
  | capital {n : Nat} {s : String} :
    s.length = n → (∀ c ∈ s.toList.head?, c.isUpper) → (∀ c ∈ s.toList.tail, c.isLower) →
    Placeholder.Admits (.capital n) s
  /-- The digits of a number of the range, with zeros in front of them up to the width. -/
  | int {low high : Int64} {width v : Nat} :
    low.toInt ≤ v → v ≤ high.toInt →
    Placeholder.Admits (.int low high width)
      (String.ofList ((Nat.toDigits 10 v).leftpad width '0'))
  | pick {first choice : List Char} {others : List (List Char)} :
    choice ∈ first :: others → Placeholder.Admits (.pick first others) (String.ofList choice)

/-- The texts that may stand in the place of a piece. -/
inductive Segment.Yields : Segment → String → Prop
  | plain {text : List Char} : Segment.Yields (.plain text) (String.ofList text)
  | filled {token : List Char} {p : Placeholder} {s : String} :
    PlaceholderText p token → p.Admits s → Segment.Yields (.slot token) s
  | copied {token : List Char} :
    (∀ p, ¬PlaceholderText p token) →
    Segment.Yields (.slot token) (String.ofList ('\x7b' :: token ++ ['\x7d']))

theorem paddedInteger_natCast (width v : Nat) :
    paddedInteger width v = (Nat.toDigits 10 v).leftpad width '0' := by
  rw [← digits_eq_toDigits]
  rfl

section

variable {σ : Type} [WordSource σ]

theorem always_lowercase (length : Nat) :
    Draw.Always (lowercase length : Draw σ String) (IsWord Char.isLower length) :=
  always_fromAlphabet (by decide) (by decide) length

/-- A capitalized word begins with its only upper-case letter. -/
theorem always_capitalized (length : Nat) :
    Draw.Always (capitalized length : Draw σ String) fun s =>
      s.length = length ∧ (∀ c ∈ s.toList.head?, c.isUpper) ∧ ∀ c ∈ s.toList.tail, c.isLower := by
  -- Every letter has both cases.
  have hletters : Draw.Always (letters length : Draw σ String)
      (IsWord (fun c => c.toUpper.isUpper && c.toLower.isLower) length) :=
    always_fromAlphabet (by decide) (by decide) length
  refine Draw.always_bind hletters fun word hword => Draw.always_pure ?_
  obtain ⟨hlength, hcases⟩ := hword
  rw [String.length_ofList, String.toList_ofList, ← hlength, ← String.length_toList]
  generalize word.toList = cs at hcases ⊢
  rcases cs with _ | ⟨c, cs⟩
  · simp [capitalize]
  · obtain ⟨hc, hcs⟩ := List.forall_mem_cons.1 hcases
    simp only [Bool.and_eq_true] at hc hcs
    simp only [capitalize, List.length_cons, List.length_map, List.head?_cons, List.tail_cons,
      Option.mem_some_iff, List.mem_map, forall_exists_index, and_imp, forall_apply_eq_imp_iff₂,
      forall_eq', true_and]
    exact ⟨hc.1, fun d hd => (hcs d hd).2⟩

/-- An integer that is spelled without a minus sign before its range is filled with digits. -/
theorem always_fill_int {low high : Int64} (hlow : 0 ≤ low.toInt) (hle : low ≤ high)
    (width : Nat) :
    Attempt.Always ((Placeholder.int low high width).fill : Attempt σ String)
      (Placeholder.int low high width).Admits := by
  refine Attempt.always_bind (Attempt.always_attempt (always_intInRange low high)) fun n hn => ?_
  split
  · rintro s a s' ⟨⟩
  · obtain ⟨hln, hnh⟩ := hn hle
    rw [Int64.le_iff_toInt_le] at hln hnh
    obtain ⟨v, hv⟩ := Int.eq_ofNat_of_zero_le (Int.le_trans hlow hln)
    rw [hv] at hln hnh ⊢
    rw [paddedInteger_natCast]
    exact Attempt.always_pure (.int hln hnh)

/-- A placeholder that a token names is filled with a text that it admits. -/
theorem always_fill {p : Placeholder} {token : List Char} (h : PlaceholderText p token) :
    Attempt.Always (p.fill : Attempt σ String) p.Admits := by
  have hrange {low high : Int64} {range : List Char} (hr : RangeText low high range)
      (width : Nat) : Attempt.Always ((Placeholder.int low high width).fill : Attempt σ String)
        (Placeholder.int low high width).Admits := by
    obtain ⟨-, hlow, -, hle⟩ := hr
    exact always_fill_int (hlow ▸ Int.natCast_nonneg _) hle width
  cases h with
  | uuid => exact Attempt.always_attempt (always_identifier.mono fun _ => .uuid)
  | letters _ => exact Attempt.always_attempt ((always_letters _).mono fun _ => .letters)
  | lower _ => exact Attempt.always_attempt ((always_lowercase _).mono fun _ => .lower)
  | alnum _ => exact Attempt.always_attempt ((always_alphanumeric _).mono fun _ => .alnum)
  | capital _ =>
    exact Attempt.always_attempt
      ((always_capitalized _).mono fun _ hs => .capital hs.1 hs.2.1 hs.2.2)
  | int hr => exact hrange hr 0
  | paddedInt hr _ => exact hrange hr _
  | pick _ =>
    exact Attempt.always_bind (Attempt.always_attempt (always_pick _ _)) fun _ hchoice =>
      Attempt.always_pure (.pick hchoice)

/-! ### Pieces -/

theorem always_expand (segment : Segment) :
    Attempt.Always (segment.expand : Attempt σ String) segment.Yields := by
  rcases segment with text | token
  · exact Attempt.always_pure .plain
  · by_cases hnone : ∀ p, ¬PlaceholderText p token
    · rw [Segment.expand_copied hnone]
      exact Attempt.always_pure (.copied hnone)
    · obtain ⟨p, htext⟩ := Classical.not_forall_not.1 hnone
      rw [Segment.expand_slot htext]
      exact (always_fill htext).mono fun _ => .filled htext

/-- Pieces are replaced one after the other, and the texts are joined. -/
theorem always_expandAll (segments : List Segment) :
    Attempt.Always (Segment.expandAll segments : Attempt σ String) fun t =>
      ∃ pieces, List.Forall₂ Segment.Yields segments pieces ∧ t = String.join pieces := by
  induction segments with
  | nil => exact Attempt.always_pure ⟨[], .nil, rfl⟩
  | cons segment segments ih =>
    refine Attempt.always_bind (always_expand segment) fun piece hpiece =>
      Attempt.always_bind ih fun t ht => Attempt.always_pure ?_
    obtain ⟨pieces, hpieces, rfl⟩ := ht
    exact ⟨piece :: pieces, .cons hpiece hpieces, String.join_cons.symm⟩

end

/-- **A text after a template has one piece for each piece of the template.** A template has one
    division. If no slot of it is a field that is too wide, the template returns from every
    state, and what it returns are the texts of the pieces, joined in order: plain text as it
    is, a slot that names a placeholder as a text that this placeholder admits, and every other
    slot with its braces. -/
theorem template_texts {σ : Type} [WordSource σ] (template : String) :
    (∃! segments, Division template.toList segments) ∧
    ∀ segments, Division template.toList segments →
      (∀ segment ∈ segments, ∀ width, ¬segment.TooWide width) → ∀ s : σ, ∃ pieces s',
        (expandTemplate template).run s = .ok (String.join pieces, s') ∧
          List.Forall₂ Segment.Yields segments pieces := by
  have hunique : ∀ segments, Division template.toList segments →
      segments = Segment.split template.toList :=
    fun segments h => (Segment.split_eq_iff.2 h).symm
  refine ⟨⟨_, Segment.division_split _, hunique⟩, fun segments hdivision hwidth s => ?_⟩
  obtain rfl := hunique segments hdivision
  obtain ⟨text, s', hs⟩ := returns_expandAll (Segment.all_fits_iff.2 hwidth) s
  obtain ⟨pieces, hpieces, rfl⟩ := always_expandAll _ s text s' hs
  exact ⟨pieces, s', hs, hpieces⟩

/-- What is picked for the first slot has an opening brace, and the next piece begins with a
    closing one, but they are no slot. -/
theorem template_texts_of_braces :
    let template := "é\x7bpick:\x7buuid|b\x7d\x7d\x7bcapital:3\x7d\x7b\x7blower:1\x7d" ++
      "\x7bint:7-12:3\x7d\x7balnum:2"
    let segments : List Segment := [.plain ['é'], .slot "pick:\x7buuid|b".toList,
      .plain ['\x7d'], .slot "capital:3".toList, .slot "\x7blower:1".toList,
      .slot "int:7-12:3".toList, .plain "\x7balnum:2".toList]
    let text := "é\x7buuid\x7dWaw\x7b\x7blower:1\x7d007\x7balnum:2"
    Division template.toList segments ∧
      (∀ segment ∈ segments, ∀ width, ¬segment.TooWide width) ∧
      (∃ s', (expandTemplate template).run (Script.ofList [0, 4000000000]) = .ok (text, s')) ∧
      ∃ pieces, List.Forall₂ Segment.Yields segments pieces ∧ text = String.join pieces := by
  intro template segments text
  have hdivision : Division template.toList segments := Segment.split_eq_iff.1 (by decide +kernel)
  have hwidth : ∀ segment ∈ segments, ∀ width, ¬segment.TooWide width :=
    Segment.all_fits_iff.1 (by decide +kernel)
  have hrun : (expandTemplate template).run (Script.ofList [0, 4000000000]) =
      .ok (text, ⟨[0, 4000000000], [4000000000]⟩) :=
    toOption_eq_some_iff.1 (by decide +kernel)
  obtain ⟨pieces, s', hs, hpieces⟩ := (template_texts template).2 segments hdivision hwidth
    (Script.ofList [0, 4000000000])
  rw [hrun, Except.ok.injEq, Prod.mk.injEq] at hs
  exact ⟨hdivision, hwidth, ⟨_, hrun⟩, pieces, hpieces, hs.1⟩

/-- **Joined templates draw in turn.** If every opening brace of a template has a closing one
    behind it, then the template with another one behind it returns from a state exactly if it
    returns itself, and the other one from the state that it leaves. The texts are joined, and
    the last state is the same. -/
theorem joined_templates_draw_in_turn {σ : Type} [WordSource σ] {first second : String}
    (h : ∀ text tail, first.toList = text ++ '\x7b' :: tail → '\x7d' ∈ tail) (s s' : σ)
    (t : String) :
    (expandTemplate (first ++ second)).run s = .ok (t, s') ↔
      ∃ x s₁ y, (expandTemplate first).run s = .ok (x, s₁) ∧
        (expandTemplate second).run s₁ = .ok (y, s') ∧ t = x ++ y := by
  have hjoin : (expandTemplate (first ++ second) : Attempt σ String) =
      expandTemplate first >>= fun x => expandTemplate second >>= fun y => pure (x ++ y) := by
    rw [expandTemplate, String.toList_append]
    exact Segment.expandAll_split_append h second.toList
  simp only [hjoin, Attempt.run_bind_eq_ok]
  constructor
  · rintro ⟨x, s₁, hx, y, s₂, hy, ⟨⟩⟩
    exact ⟨x, s₁, y, hx, hy, rfl⟩
  · rintro ⟨x, s₁, y, hx, hy, rfl⟩
    exact ⟨x, s₁, hx, y, s', hy, rfl⟩

/-- A slot of the first template has an opening brace inside, and the second ends with one. -/
theorem joined_templates_draw_in_turn_of_braces :
    let first := "é\x7bpick:\x7buuid|b\x7d\x7d"
    let second := "\x7blower:2\x7d\x7b"
    (∀ text tail, first.toList = text ++ '\x7b' :: tail → '\x7d' ∈ tail) ∧
      (expandTemplate (first ++ second)).run (Script.ofList [0, 4000000000]) =
        .ok ("é\x7buuid\x7dya\x7b", ⟨[0, 4000000000], [4000000000]⟩) := by
  intro first second
  -- The template ends with a closing brace, which stands behind every opening one.
  have hclosed : ∀ text tail, first.toList = text ++ '\x7b' :: tail → '\x7d' ∈ tail := by
    intro text tail heq
    have hlast : first.toList.getLast? = some '\x7d' := by decide
    rw [heq, List.getLast?_append, List.getLast?_cons, Option.some_or, Option.some.injEq] at hlast
    rcases htail : tail.getLast? with _ | c
    · simp [htail] at hlast
    · rw [htail, Option.getD_some] at hlast
      exact List.mem_of_getLast? (hlast ▸ htail)
  refine ⟨hclosed, (joined_templates_draw_in_turn hclosed _ _ _).2
    ⟨"é\x7buuid\x7d", ⟨[0, 4000000000], [4000000000]⟩, "ya\x7b", ?_, ?_, by decide⟩⟩
  · exact toOption_eq_some_iff.1 (by decide +kernel)
  · exact toOption_eq_some_iff.1 (by decide +kernel)

end SyntheticLoad.Field
