import SyntheticLoad.Text.Cut

/-!
# Cutting longer texts

What has no separator in it stays together when it is cut, whatever stands behind it. So a
text is cut where the separator first occurs, and nowhere else (`cut_eq_some_iff`).
-/

namespace SyntheticLoad.Text

section

variable {sep : Char} {cs : List Char} (h : sep ∉ cs)

include h

theorem cut_append (rest : List Char) :
    cut sep (cs ++ rest) =
      (cut sep rest).map fun (before, after) => (cs ++ before, after) := by
  induction cs with
  | nil => cases hcut : cut sep rest <;> rw [List.nil_append, hcut] <;> rfl
  | cons c cs ih =>
    rw [List.mem_cons, not_or] at h
    obtain ⟨hne, hcs⟩ := h
    rw [List.cons_append, cut, if_neg (Ne.symm hne), ih hcs, Option.map_map]
    rfl

theorem cut_eq_none : cut sep cs = none := by
  rw [← List.append_nil cs, cut_append h]
  rfl

theorem cut_append_cons (rest : List Char) : cut sep (cs ++ sep :: rest) = some (cs, rest) := by
  rw [cut_append h, cut, if_pos rfl]
  simp

theorem split_append_cons (rest : List Char) :
    split sep (cs ++ sep :: rest) = cs :: split sep rest := by
  induction cs with
  | nil => rw [List.nil_append, split, if_pos rfl]
  | cons c cs ih =>
    rw [List.mem_cons, not_or] at h
    obtain ⟨hne, hcs⟩ := h
    rw [List.cons_append, split, if_neg (Ne.symm hne), ih hcs]

theorem split_eq_singleton : split sep cs = [cs] := by
  induction cs with
  | nil => rfl
  | cons c cs ih =>
    rw [List.mem_cons, not_or] at h
    obtain ⟨hne, hcs⟩ := h
    rw [split, if_neg (Ne.symm hne), ih hcs]

end

/-- Before the cut there is no separator, and the text is put together again around it. -/
theorem cut_eq_some_iff {sep : Char} {cs before after : List Char} :
    cut sep cs = some (before, after) ↔ cs = before ++ sep :: after ∧ sep ∉ before := by
  constructor
  · intro hcut
    by_cases hmem : sep ∈ cs
    · obtain ⟨before', after', rfl, hbefore⟩ := List.eq_append_cons_of_mem hmem
      rw [cut_append_cons hbefore] at hcut
      obtain ⟨rfl, rfl⟩ := Prod.mk.inj (Option.some.inj hcut)
      exact ⟨rfl, hbefore⟩
    · rw [cut_eq_none hmem] at hcut
      exact absurd hcut (by simp)
  · rintro ⟨rfl, hbefore⟩
    exact cut_append_cons hbefore after

/-- What stands before the cut is all that comes before the first separator. -/
theorem takeWhile_of_cut {sep : Char} {cs before after : List Char}
    (h : cut sep cs = some (before, after)) : cs.takeWhile (· ≠ sep) = before := by
  obtain ⟨rfl, hbefore⟩ := cut_eq_some_iff.1 h
  have hall : ∀ c ∈ before, decide (c ≠ sep) = true := fun c hc =>
    decide_eq_true (ne_of_mem_of_not_mem hc hbefore)
  rw [List.takeWhile_append_of_pos hall, List.takeWhile_cons_of_neg (by simp), List.append_nil]

/-- The pieces between the separators are those that lists are split into. -/
theorem split_eq_splitOn (sep : Char) (cs : List Char) : split sep cs = cs.splitOn sep := by
  induction cs with
  | nil => rfl
  | cons c cs ih =>
    rw [List.splitOn_eq_splitOnP, List.splitOnP_cons_eq_if_modifyHead, ← List.splitOn_eq_splitOnP,
      split, ih]
    by_cases hc : c = sep
    · simp [hc]
    · rcases hpieces : cs.splitOn sep with _ | ⟨piece, pieces⟩
      · exact absurd hpieces (List.splitOn_ne_nil sep cs)
      · simp [hc]

end SyntheticLoad.Text
