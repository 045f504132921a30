import SyntheticLoad.Proofs.Text.LetterCase
import SyntheticLoad.Proofs.Text.NumeralForm
import SyntheticLoad.Shape.Basic

/-!
# Spellings of names

A text is a spelling of a name if it is the name with any blanks around it and with its letters
in any case (`Spells`). Shapes and selectors are read from all spellings of their names and from
nothing else (`Shape.read_eq_ok_iff`, `Selector.read_eq_ok_iff`), although the one reader looks
for the name in lower case and the other one compares letter by letter before it asks the first.
What is refused is reported as it was given.

No text is a spelling of two names (`Selector.eq_of_spells`), and which name it spells does not
depend on the blanks around it or on the case of its letters (`spells_respelled`).
-/

namespace SyntheticLoad

open Text

/-! ### Spellings -/

/-- A text is a spelling of a name: without the blanks at its ends it is the name, but for the
    case of the letters. -/
def Spells (s name : String) : Prop :=
  ∃ before core after, s.toList = before ++ core ++ after ∧
    (∀ c ∈ before, isBlank c = true) ∧ (∀ c ∈ after, isBlank c = true) ∧
    Trimmed isBlank core ∧ SameButCase core name.toList

theorem spells_iff {s name : String} :
    Spells s name ↔ SameButCase (trim s.toList) name.toList := by
  constructor
  · rintro ⟨before, core, after, hs, hbefore, hafter, hcore, hname⟩
    rw [hs, trim, trimBy_append hcore hbefore hafter]
    exact hname
  · intro hname
    obtain ⟨before, after, hs, hbefore, hafter⟩ := exists_trimBy isBlank s.toList
    exact ⟨before, _, after, hs, hbefore, hafter, trimmed_trimBy isBlank _, hname⟩

instance (s name : String) : Decidable (Spells s name) := decidable_of_iff _ spells_iff.symm

/-- Blanks around a text and the case of its letters make no difference to what it spells. -/
theorem spells_respelled {s t before after : String} (hsame : SameButCase s.toList t.toList)
    (hbefore : ∀ c ∈ before.toList, isBlank c = true)
    (hafter : ∀ c ∈ after.toList, isBlank c = true) (name : String) :
    Spells (before ++ t ++ after) name ↔ Spells s name := by
  have hcore : trim (before ++ t ++ after).toList = trim t.toList := by
    rw [String.toList_append, String.toList_append]
    exact trimBy_append_append hbefore hafter t.toList
  have hlower : lower (trim s.toList) = lower (trim t.toList) :=
    sameButCase_iff_lower_eq.1 hsame.trim
  rw [spells_iff, spells_iff, hcore, sameButCase_iff_lower_eq, sameButCase_iff_lower_eq, hlower]

/-! ### Shapes -/

namespace Shape

theorem mem_all (h : Shape) : h ∈ all := by cases h <;> decide

theorem name_injective : Function.Injective name := by
  have hall : ∀ h ∈ all, ∀ h' ∈ all, h.name = h'.name → h = h' := by decide
  exact fun h h' => hall h (mem_all h) h' (mem_all h')

/-- Names are in lower case. -/
theorem lower_name (h : Shape) : lower h.name.toList = h.name.toList := by cases h <;> decide

theorem spells_name_iff {s : String} {h : Shape} :
    Spells s h.name ↔ String.ofList (lower (trim s.toList)) = h.name := by
  rw [spells_iff, sameButCase_iff_lower_eq, lower_name]
  constructor
  · intro hlower
    rw [hlower, String.ofList_toList]
  · intro hname
    rw [← hname, String.toList_ofList]

/-- A text is read as the shape whose name it is in lower case. -/
theorem read_eq_find (s : String) :
    read s = match all.find? fun h => String.ofList (lower (trim s.toList)) = h.name with
      | some h => .ok h
      | none => .error ⟨s⟩ := by
  simp only [read, all, List.find?_cons, List.find?_nil, name]
  split_ifs <;> simp [*]

theorem read_eq_ok_iff {s : String} {h : Shape} : read s = .ok h ↔ Spells s h.name := by
  rw [read_eq_find, spells_name_iff]
  constructor
  · intro hread
    split at hread
    · next h' hfound =>
      cases hread
      have hlower := List.find?_some hfound
      exact of_decide_eq_true hlower
    · cases hread
  · intro hname
    split
    · next h' hfound =>
      have hlower := List.find?_some hfound
      rw [name_injective ((of_decide_eq_true hlower).symm.trans hname)]
    · next hnone =>
      exact absurd (decide_eq_true hname) (List.find?_eq_none.1 hnone h (mem_all h))

/-- A text that is not read is reported as it was given. -/
theorem read_ok_or_error (s : String) : (∃ h, read s = .ok h) ∨ read s = .error ⟨s⟩ := by
  rw [read_eq_find]
  split
  · next h _ => exact .inl ⟨h, rfl⟩
  · exact .inr rfl

end Shape

/-! ### Selectors -/

namespace Selector

theorem name_injective : Function.Injective name := by
  have hmixed (h : Shape) : h.name ≠ "mixed" := by cases h <;> decide
  intro x y heq
  cases x with
  | fixed h =>
    cases y with
    | fixed h' => rw [Shape.name_injective heq]
    | mixed => exact absurd heq (hmixed h)
  | mixed =>
    cases y with
    | fixed h => exact absurd heq.symm (hmixed h)
    | mixed => rfl

theorem lower_name (x : Selector) : lower x.name.toList = x.name.toList := by
  cases x with
  | fixed h => exact Shape.lower_name h
  | mixed => decide

/-- No text is a spelling of the names of two selectors. -/
theorem eq_of_spells {s : String} {x y : Selector} (hx : Spells s x.name)
    (hy : Spells s y.name) : x = y := by
  rw [spells_iff, sameButCase_iff_lower_eq, lower_name] at hx hy
  exact name_injective (String.toList_inj.1 (hx.symm.trans hy))

/-- A spelling of `mixed` is the name of no shape. -/
theorem read_shape_of_mixed {s : String} (h : Spells s mixed.name) : Shape.read s = .error ⟨s⟩ := by
  refine (Shape.read_ok_or_error s).resolve_left ?_
  rintro ⟨shape, hread⟩
  have hspells : Spells s (fixed shape).name := Shape.read_eq_ok_iff.1 hread
  cases eq_of_spells hspells h

theorem read_eq_ok_iff {s : String} {x : Selector} : read s = .ok x ↔ Spells s x.name := by
  rw [read]
  split
  · next hmixed =>
    have hspells : Spells s mixed.name := spells_iff.2 (equalButCase_iff.1 hmixed)
    constructor
    · rintro ⟨⟩
      exact hspells
    · intro hx
      rw [eq_of_spells hx hspells]
  · next hmixed =>
    rw [map_eq_ok_iff]
    constructor
    · rintro ⟨h, hread, rfl⟩
      exact Shape.read_eq_ok_iff.1 hread
    · intro hx
      cases x with
      | fixed h => exact ⟨h, Shape.read_eq_ok_iff.2 hx, rfl⟩
      | mixed => exact absurd (equalButCase_iff.2 (spells_iff.1 hx)) hmixed

theorem read_ok_or_error (s : String) : (∃ x, read s = .ok x) ∨ read s = .error ⟨s⟩ := by
  rw [read]
  split
  · exact .inl ⟨mixed, rfl⟩
  · rcases Shape.read_ok_or_error s with ⟨h, hread⟩ | herror
    · exact .inl ⟨fixed h, by rw [hread]; rfl⟩
    · exact .inr (by rw [herror]; rfl)

end Selector

/-- **Names are read in all their spellings.** A text is read as a selector just if it is a
    spelling of the name of that selector, and as a shape just if it is read as the selector of
    this shape alone, so never from a spelling of `mixed`. What cannot be read is reported as it
    was given, with its blanks and its letters. More blanks around a text, or letters in the
    other case, do not change what it is read as, and no text is a spelling of two names. -/
theorem names_read_in_all_spellings :
    (∀ s x, Selector.read s = .ok x ↔ Spells s x.name) ∧
    (∀ s h, Shape.read s = .ok h ↔ Selector.read s = .ok (.fixed h)) ∧
    (∀ s, Spells s Selector.mixed.name → Shape.read s = .error ⟨s⟩) ∧
    (∀ s, ((∃ x, Selector.read s = .ok x) ∨ Selector.read s = .error ⟨s⟩) ∧
      ((∃ h, Shape.read s = .ok h) ∨ Shape.read s = .error ⟨s⟩)) ∧
    (∀ s t before after : String, SameButCase s.toList t.toList →
      (∀ c ∈ before.toList, isBlank c = true) → (∀ c ∈ after.toList, isBlank c = true) →
      (∀ x, Selector.read (before ++ t ++ after) = .ok x ↔ Selector.read s = .ok x) ∧
        ∀ h, Shape.read (before ++ t ++ after) = .ok h ↔ Shape.read s = .ok h) ∧
    ∀ (s : String) (x y : Selector), Spells s x.name → Spells s y.name → x = y := by
  refine ⟨fun s x => Selector.read_eq_ok_iff, fun s h => ?_,
    fun s => Selector.read_shape_of_mixed,
    fun s => ⟨Selector.read_ok_or_error s, Shape.read_ok_or_error s⟩,
    fun s t before after hsame hbefore hafter => ⟨fun x => ?_, fun h => ?_⟩,
    fun s x y => Selector.eq_of_spells⟩
  · rw [Selector.read_eq_ok_iff, Shape.read_eq_ok_iff]
    rfl
  · rw [Selector.read_eq_ok_iff, Selector.read_eq_ok_iff, spells_respelled hsame hbefore hafter]
  · rw [Shape.read_eq_ok_iff, Shape.read_eq_ok_iff, spells_respelled hsame hbefore hafter]

/-- A name in letters of both cases and between blanks of two kinds, and a spelling of `mixed`. -/
theorem names_read_in_all_spellings_of_blanks :
    SameButCase "event".toList "eVENT".toList ∧
      Selector.read ("\u3000" ++ "eVENT" ++ "\u0085") = .ok (.fixed .event) ∧
      Shape.read ("\u3000" ++ "eVENT" ++ "\u0085") = .ok .event ∧
      Spells "\tMiXeD" Selector.mixed.name ∧ Shape.read "\tMiXeD" = .error ⟨"\tMiXeD"⟩ := by
  obtain ⟨hread, hshape, hmixed, -, hrespelled, -⟩ := names_read_in_all_spellings
  have hsame : SameButCase "event".toList "eVENT".toList := by decide
  have hspells : Spells "\tMiXeD" Selector.mixed.name := by decide
  have hplain : Selector.read "event" = .ok (.fixed .event) := (hread _ _).2 (by decide)
  obtain ⟨hselectors, hshapes⟩ := hrespelled "event" "eVENT" "\u3000" "\u0085" hsame
    (List.all_eq_true.1 (by decide)) (List.all_eq_true.1 (by decide))
  exact ⟨hsame, (hselectors _).2 hplain, (hshapes _).2 ((hshape _ _).2 hplain), hspells,
    hmixed _ hspells⟩

end SyntheticLoad
