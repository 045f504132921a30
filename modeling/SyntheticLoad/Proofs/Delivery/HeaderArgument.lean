import SyntheticLoad.Delivery.Target
import SyntheticLoad.Proofs.Text.Cut
import SyntheticLoad.Proofs.Text.Trim

/-!
# Headers as arguments

An argument is a header if there is a colon in it with more than blanks before it. The first
colon counts, so there may be others in the value, and there are none in the name. What stands
on either side is trimmed (`readHeader_eq_ok_iff`). That fixes the result: a name and a value
that are trimmed already come out again, whatever blanks are put around them
(`readHeader_of_parts`), and a header that has been read, written with a colon and a space,
is read as the same once more.
-/

namespace SyntheticLoad.Target

open Text

/-- A text has nothing but blanks in it. -/
def AllBlank (cs : List Char) : Prop := ∀ c ∈ cs, isBlank c = true

instance (cs : List Char) : Decidable (AllBlank cs) :=
  List.decidableBAll (fun c => isBlank c = true) cs

theorem trim_eq_nil_iff {cs : List Char} : trim cs = [] ↔ AllBlank cs := trimBy_eq_nil_iff

/-- A header is what stands before and behind the first colon, both trimmed. -/
theorem readHeader_eq_ok_iff {s name value : String} :
    readHeader s = .ok (name, value) ↔ ∃ before after,
      s.toList = before ++ ':' :: after ∧ ':' ∉ before ∧ ¬AllBlank before ∧
        name.toList = trim before ∧ value.toList = trim after := by
  rw [readHeader]
  constructor
  · intro h
    split at h
    · cases h
    · next before after hcut =>
      obtain ⟨hs, hcolon⟩ := cut_eq_some_iff.1 hcut
      simp only at h
      split at h
      · cases h
      · next hne =>
        cases h
        exact ⟨before, after, hs, hcolon, fun hall => hne (trim_eq_nil_iff.2 hall),
          String.toList_ofList, String.toList_ofList⟩
  · rintro ⟨before, after, hs, hcolon, hblank, hname, hvalue⟩
    have hne : trim before ≠ [] := fun hnil => hblank (trim_eq_nil_iff.1 hnil)
    simp only [cut_eq_some_iff.2 ⟨hs, hcolon⟩, if_neg hne]
    rw [← hname, ← hvalue, String.ofList_toList, String.ofList_toList]

/-- The part before the first colon is all that decides. -/
theorem exists_readHeader_iff (s : String) :
    (∃ name value, readHeader s = .ok (name, value)) ↔
      ':' ∈ s.toList ∧ ¬AllBlank (s.toList.takeWhile (· ≠ ':')) := by
  constructor
  · rintro ⟨name, value, hread⟩
    obtain ⟨before, after, hs, hcolon, hblank, -⟩ := readHeader_eq_ok_iff.1 hread
    have hcut := cut_eq_some_iff.2 ⟨hs, hcolon⟩
    exact ⟨hs ▸ List.mem_append_right _ List.mem_cons_self, takeWhile_of_cut hcut ▸ hblank⟩
  · rintro ⟨hmem, hblank⟩
    obtain ⟨before, after, hs, hcolon⟩ := List.eq_append_cons_of_mem hmem
    rw [takeWhile_of_cut (cut_eq_some_iff.2 ⟨hs, hcolon⟩)] at hblank
    exact ⟨String.ofList (trim before), String.ofList (trim after), readHeader_eq_ok_iff.2
      ⟨before, after, hs, hcolon, hblank, String.toList_ofList, String.toList_ofList⟩⟩

theorem colon_not_allBlank {cs : List Char} (h : AllBlank cs) : ':' ∉ cs :=
  fun hmem => absurd (h _ hmem) (by decide)

/-- A trimmed name and a trimmed value are read from among any blanks. -/
theorem readHeader_of_parts {name value w₁ w₂ w₃ w₄ : String} (hne : name ≠ "")
    (hcolon : ':' ∉ name.toList) (hname : Trimmed isBlank name.toList)
    (hvalue : Trimmed isBlank value.toList) (h₁ : AllBlank w₁.toList) (h₂ : AllBlank w₂.toList)
    (h₃ : AllBlank w₃.toList) (h₄ : AllBlank w₄.toList) :
    readHeader (w₁ ++ name ++ w₂ ++ ":" ++ w₃ ++ value ++ w₄) = .ok (name, value) := by
  have hbefore : trim (w₁.toList ++ name.toList ++ w₂.toList) = name.toList :=
    trimBy_append hname h₁ h₂
  have hafter : trim (w₃.toList ++ value.toList ++ w₄.toList) = value.toList :=
    trimBy_append hvalue h₃ h₄
  refine readHeader_eq_ok_iff.2 ⟨_, _, ?_, ?_, ?_, hbefore.symm, hafter.symm⟩
  · simp only [String.toList_append, List.append_assoc]
    rfl
  · simp only [List.mem_append, not_or]
    exact ⟨⟨colon_not_allBlank h₁, hcolon⟩, colon_not_allBlank h₂⟩
  · rw [← trim_eq_nil_iff, hbefore]
    exact fun hnil => hne (String.toList_eq_nil_iff.1 hnil)

/-- What has been read is a name without a colon and a value, both trimmed. -/
theorem trimmed_of_readHeader {s name value : String} (h : readHeader s = .ok (name, value)) :
    ':' ∉ name.toList ∧ name ≠ "" ∧ Trimmed isBlank name.toList ∧ Trimmed isBlank value.toList := by
  obtain ⟨before, after, -, hcolon, hblank, hname, hvalue⟩ := readHeader_eq_ok_iff.1 h
  refine ⟨fun hmem => hcolon (mem_of_mem_trimBy (hname ▸ hmem)), fun hnil => hblank ?_,
    hname ▸ trimmed_trimBy isBlank before, hvalue ▸ trimmed_trimBy isBlank after⟩
  rw [← trim_eq_nil_iff, ← hname, hnil]
  rfl

/-- **A header argument is read just if it has its form.** It has a colon, and before the first
    one there is not only blanks. Then the name has no colon in it and is not empty, name and
    value have no blanks at their ends, and put together again with a colon and a space they
    are read as they are. And any such name and value, the value with colons in it or
    without, are read with any blanks around them. -/
theorem header_argument_read_iff :
    (∀ s, (∃ name value, readHeader s = .ok (name, value)) ↔
      ':' ∈ s.toList ∧ ¬AllBlank (s.toList.takeWhile (· ≠ ':'))) ∧
    (∀ s name value, readHeader s = .ok (name, value) →
      ':' ∉ name.toList ∧ name ≠ "" ∧ Trimmed isBlank name.toList ∧
        Trimmed isBlank value.toList ∧
        readHeader (name ++ ": " ++ value) = .ok (name, value)) ∧
    ∀ name value w₁ w₂ w₃ w₄ : String, name ≠ "" → ':' ∉ name.toList →
      Trimmed isBlank name.toList → Trimmed isBlank value.toList →
      AllBlank w₁.toList → AllBlank w₂.toList → AllBlank w₃.toList → AllBlank w₄.toList →
      readHeader (w₁ ++ name ++ w₂ ++ ":" ++ w₃ ++ value ++ w₄) = .ok (name, value) := by
  refine ⟨exists_readHeader_iff, fun s name value hread => ?_,
    fun name value w₁ w₂ w₃ w₄ hne hcolon hname hvalue h₁ h₂ h₃ h₄ =>
      readHeader_of_parts hne hcolon hname hvalue h₁ h₂ h₃ h₄⟩
  obtain ⟨hcolon, hne, hname, hvalue⟩ := trimmed_of_readHeader hread
  have hagain : readHeader ("" ++ name ++ "" ++ ":" ++ " " ++ value ++ "") = .ok (name, value) :=
    readHeader_of_parts hne hcolon hname hvalue (by decide) (by decide) (by decide) (by decide)
  refine ⟨hcolon, hne, hname, hvalue, ?_⟩
  have hjoined : name ++ ":" ++ " " = name ++ ": " := by
    rw [String.append_assoc]
    rfl
  rwa [String.empty_append, String.append_empty, String.append_empty, hjoined] at hagain

/-- A name and a value with a colon, among blanks of several kinds. -/
theorem header_argument_read_of_blanks :
    readHeader ("\u3000" ++ "X-Trace" ++ "\t" ++ ":" ++ "" ++ "a: b" ++ "\u0085 ") =
        .ok ("X-Trace", "a: b") ∧
      readHeader ("X-Trace" ++ ": " ++ "a: b") = .ok ("X-Trace", "a: b") := by
  obtain ⟨-, hform, hread⟩ := header_argument_read_iff
  have hgiven := hread "X-Trace" "a: b" "\u3000" "\t" "" "\u0085 " (by decide) (by decide)
    (by decide) (by decide) (by decide) (by decide) (by decide) (by decide)
  exact ⟨hgiven, (hform _ _ _ hgiven).2.2.2.2⟩

end SyntheticLoad.Target
