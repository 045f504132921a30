import SyntheticLoad.Field.Template
import SyntheticLoad.Proofs.Random.Always

/-!
# How templates are divided

A template has one division into plain text and slots (`Division`): a slot is the text between
an opening brace and the first closing brace after it, so there are opening braces inside of
slots but no closing ones, and an opening brace with no closing brace after it is plain text to
the end. The scanner of templates, which goes through them character by character, finds that
division (`Segment.split_eq_iff`).

A template whose slots are all closed is divided in the same way whatever stands behind it. So
what is drawn for two templates that are joined is what is drawn for one after the other
(`Segment.expandAll_split_append`).
-/

namespace SyntheticLoad.Field

open SyntheticLoad.Random

/-- The piece of some plain text. There is none of an empty text. -/
def Segment.ofText : List Char → List Segment
  | [] => []
  | c :: cs => [.plain (c :: cs)]

/-- The characters that a piece has in a template. -/
def Segment.source : Segment → List Char
  | .plain text => text
  | .slot token => '\x7b' :: token ++ ['\x7d']

/-- The division of a template into pieces. -/
inductive Division : List Char → List Segment → Prop
  /-- There is no opening brace. -/
  | text {text : List Char} : '\x7b' ∉ text → Division text (Segment.ofText text)
  /-- No closing brace stands behind the first opening one. -/
  | unclosed {text tail : List Char} :
    '\x7b' ∉ text → '\x7d' ∉ tail →
    Division (text ++ '\x7b' :: tail) (Segment.ofText (text ++ '\x7b' :: tail))
  /-- The first opening brace, and the first closing one behind it. -/
  | slot {text token rest : List Char} {segments : List Segment} :
    '\x7b' ∉ text → '\x7d' ∉ token → Division rest segments →
    Division (text ++ '\x7b' :: (token ++ '\x7d' :: rest))
      (Segment.ofText text ++ .slot token :: segments)

namespace Segment

/-! ### Plain text -/

theorem cons_ofText (c : Char) (cs : List Char) : cons c (ofText cs) = ofText (c :: cs) := by
  rcases cs with _ | ⟨d, ds⟩ <;> rfl

theorem cons_ofText_slot (c : Char) (cs token : List Char) (segments : List Segment) :
    cons c (ofText cs ++ .slot token :: segments) =
      ofText (c :: cs) ++ .slot token :: segments := by
  rcases cs with _ | ⟨d, ds⟩ <;> rfl

theorem foldr_cons_ofText (text cs : List Char) :
    text.foldr cons (ofText cs) = ofText (text ++ cs) := by
  induction text with
  | nil => rfl
  | cons c text ih => rw [List.foldr_cons, ih, cons_ofText, List.cons_append]

theorem foldr_cons_slot (text token : List Char) (segments : List Segment) :
    text.foldr cons (.slot token :: segments) = ofText text ++ .slot token :: segments := by
  induction text with
  | nil => rfl
  | cons c text ih => rw [List.foldr_cons, ih, cons_ofText_slot]

/-! ### The scanner -/

/-- Outside of slots, characters up to an opening brace are put in front of what follows. -/
theorem split_append {text : List Char} (h : '\x7b' ∉ text) (cs : List Char) :
    split (text ++ cs) = text.foldr cons (split cs) := by
  induction text with
  | nil => rfl
  | cons c text ih =>
    rw [List.mem_cons, not_or] at h
    obtain ⟨hc, htext⟩ := h
    rw [List.foldr_cons, ← ih htext, List.cons_append, split, scan, if_neg (Ne.symm hc)]
    rfl

/-- A slot that is not closed is read to the end. -/
theorem scan_unclosed (token : List Char) {cs : List Char} (h : '\x7d' ∉ cs) :
    scan (some token) cs = ofText ('\x7b' :: (token.reverse ++ cs)) := by
  induction cs generalizing token with
  | nil => rw [List.append_nil]; rfl
  | cons c cs ih =>
    rw [List.mem_cons, not_or] at h
    obtain ⟨hc, hcs⟩ := h
    rw [scan, if_neg (Ne.symm hc), ih _ hcs, List.reverse_cons, List.append_assoc]
    rfl

/-- The first closing brace ends the slot. -/
theorem scan_closed (token : List Char) {cs : List Char} (h : '\x7d' ∉ cs) (rest : List Char) :
    scan (some token) (cs ++ '\x7d' :: rest) = .slot (token.reverse ++ cs) :: split rest := by
  induction cs generalizing token with
  | nil => rw [List.nil_append, scan, if_pos rfl, List.append_nil]; rfl
  | cons c cs ih =>
    rw [List.mem_cons, not_or] at h
    obtain ⟨hc, hcs⟩ := h
    rw [List.cons_append, scan, if_neg (Ne.symm hc), ih _ hcs, List.reverse_cons,
      List.append_assoc]
    rfl

theorem split_text {text : List Char} (h : '\x7b' ∉ text) : split text = ofText text := by
  have happend := split_append h []
  rw [List.append_nil] at happend
  rw [happend]
  exact (foldr_cons_ofText text []).trans (by rw [List.append_nil])

theorem split_unclosed {text tail : List Char} (htext : '\x7b' ∉ text) (htail : '\x7d' ∉ tail) :
    split (text ++ '\x7b' :: tail) = ofText (text ++ '\x7b' :: tail) := by
  rw [split_append htext, split, scan, if_pos rfl, scan_unclosed [] htail]
  exact foldr_cons_ofText text _

theorem split_slot {text token : List Char} (htext : '\x7b' ∉ text) (htoken : '\x7d' ∉ token)
    (rest : List Char) :
    split (text ++ '\x7b' :: (token ++ '\x7d' :: rest)) =
      text.foldr cons (.slot token :: split rest) := by
  rw [split_append htext, split, scan, if_pos rfl, scan_closed [] htoken]
  rfl

/-! ### Divisions -/

theorem division_split (cs : List Char) : Division cs (split cs) := by
  induction hn : cs.length using Nat.strongRecOn generalizing cs with
  | ind n ih =>
    by_cases hopen : '\x7b' ∈ cs
    · obtain ⟨text, tail, rfl, htext⟩ := List.eq_append_cons_of_mem hopen
      by_cases hclose : '\x7d' ∈ tail
      · obtain ⟨token, rest, rfl, htoken⟩ := List.eq_append_cons_of_mem hclose
        rw [split_slot htext htoken, foldr_cons_slot]
        refine .slot htext htoken (ih rest.length ?_ rest rfl)
        simp only [← hn, List.length_append, List.length_cons]
        omega
      · rw [split_unclosed htext hclose]
        exact .unclosed htext hclose
    · rw [split_text hopen]
      exact .text hopen

/-- **The scanner finds the division of a template.** -/
theorem split_eq_iff {cs : List Char} {segments : List Segment} :
    split cs = segments ↔ Division cs segments := by
  constructor
  · rintro rfl
    exact division_split cs
  · intro h
    induction h with
    | text htext => exact split_text htext
    | unclosed htext htail => exact split_unclosed htext htail
    | slot htext htoken _ ih => rw [split_slot htext htoken, ih, foldr_cons_slot]

theorem flatMap_source_ofText (text : List Char) : (ofText text).flatMap source = text := by
  rcases text with _ | ⟨c, cs⟩
  · rfl
  · exact List.append_nil _

/-- The pieces of a template make up the template. -/
theorem flatMap_source {cs : List Char} {segments : List Segment} (h : Division cs segments) :
    segments.flatMap source = cs := by
  induction h with
  | text _ => exact flatMap_source_ofText _
  | unclosed _ _ => exact flatMap_source_ofText _
  | slot _ _ _ ih =>
    rw [List.flatMap_append, List.flatMap_cons, ih, flatMap_source_ofText, source]
    simp

/-! ### Joined templates -/

section

variable {σ : Type} [WordSource σ]

/-- A character in front of some pieces stands in front of what they are replaced with. -/
theorem expandAll_cons (c : Char) (segments : List Segment) :
    (expandAll (cons c segments) : Attempt σ String) =
      expandAll segments >>= fun t => pure (String.ofList [c] ++ t) := by
  rcases segments with _ | ⟨text | token, segments⟩
  · simp [cons, expandAll, expand]
  · simp [cons, expandAll, expand, ← String.append_assoc]
  · simp [cons, expandAll, expand]

/-- Plain text in front of some pieces stands in front of what they are replaced with. -/
theorem expandAll_foldr_cons (text : List Char) (segments : List Segment) :
    (expandAll (text.foldr cons segments) : Attempt σ String) =
      expandAll segments >>= fun t => pure (String.ofList text ++ t) := by
  induction text with
  | nil => simp
  | cons c text ih =>
    simp [expandAll_cons, ih, ← String.append_assoc]

/-- What a division begins with is replaced first: the text before the first slot is kept. -/
theorem expandAll_split_slot {text token : List Char} (htext : '\x7b' ∉ text)
    (htoken : '\x7d' ∉ token) (rest : List Char) :
    (expandAll (split (text ++ '\x7b' :: (token ++ '\x7d' :: rest))) : Attempt σ String) =
      (slot token).expand >>= fun x => expandAll (split rest) >>= fun y =>
        pure (String.ofList text ++ (x ++ y)) := by
  rw [split_slot htext htoken, expandAll_foldr_cons]
  simp [expandAll]

/-- **Joined templates draw one after the other.** Every slot of the first one has to be closed;
    the second may be any text. -/
theorem expandAll_split_append {cs : List Char}
    (h : ∀ text tail, cs = text ++ '\x7b' :: tail → '\x7d' ∈ tail) (ds : List Char) :
    (expandAll (split (cs ++ ds)) : Attempt σ String) =
      expandAll (split cs) >>= fun x => expandAll (split ds) >>= fun y => pure (x ++ y) := by
  -- By induction over the division, as the rest behind a slot has all its slots closed too.
  obtain ⟨segments, hdivision⟩ : ∃ segments, Division cs segments := ⟨_, division_split cs⟩
  induction hdivision with
  | text htext =>
    have hself := split_append htext []
    rw [List.append_nil] at hself
    rw [split_append htext, hself, expandAll_foldr_cons, expandAll_foldr_cons]
    simp [split, scan, expandAll]
  | unclosed _ htail => exact absurd (h _ _ rfl) htail
  | @slot text token rest segments htext htoken _ ih =>
    have hrest : ∀ before tail, rest = before ++ '\x7b' :: tail → '\x7d' ∈ tail := by
      rintro before tail rfl
      exact h (text ++ '\x7b' :: (token ++ '\x7d' :: before)) tail (by simp)
    have hjoin : text ++ '\x7b' :: (token ++ '\x7d' :: rest) ++ ds =
        text ++ '\x7b' :: (token ++ '\x7d' :: (rest ++ ds)) := by simp
    rw [hjoin, expandAll_split_slot htext htoken, expandAll_split_slot htext htoken, ih hrest]
    simp only [bind_assoc, pure_bind, String.append_assoc]

end

end Segment

end SyntheticLoad.Field
