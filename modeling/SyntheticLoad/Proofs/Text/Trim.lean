import Mathlib.Data.List.DropRight
import SyntheticLoad.Text.Blank

/-!
# Trimmed texts

Trimming takes the characters of a class from the ends of a text, and nothing else
(`exists_trimBy`). What is left has none of them at either end (`trimmed_trimBy`), and it is all
there is to know of the result: a text with nothing to trim comes out again from between any
characters of the class (`trimBy_append`). Hence it does not matter how many of them there are
(`trimBy_append_append`), nor whether characters are replaced by others of their kind before or
after (`trimBy_map`).
-/

namespace SyntheticLoad.Text

variable {p : Char → Bool}

/-! ### The beginning of a text -/

theorem takeWhile_append_cons {c : Char} (hc : p c = false) (cs rest : List Char) :
    (cs ++ c :: rest).takeWhile p = cs.takeWhile p := by
  induction cs with
  | nil => rw [List.nil_append, List.takeWhile_cons_of_neg (by simp [hc]), List.takeWhile_nil]
  | cons d cs ih =>
    by_cases hd : p d = true
    · rw [List.cons_append, List.takeWhile_cons_of_pos hd, List.takeWhile_cons_of_pos hd, ih]
    · rw [List.cons_append, List.takeWhile_cons_of_neg hd, List.takeWhile_cons_of_neg hd]

/-- What is taken before characters that are not taken. -/
theorem takeWhile_append_stop {stop : List Char} (hstop : ∀ c ∈ stop, p c = false)
    (cs : List Char) : (cs ++ stop).takeWhile p = cs.takeWhile p := by
  cases stop with
  | nil => rw [List.append_nil]
  | cons c rest => exact takeWhile_append_cons (hstop c List.mem_cons_self) cs rest

theorem dropWhile_stop {stop : List Char} (hstop : ∀ c ∈ stop, p c = false) :
    stop.dropWhile p = stop := by
  cases stop with
  | nil => rfl
  | cons c rest => exact List.dropWhile_cons_of_neg (by simp [hstop c List.mem_cons_self])

theorem dropWhile_append_of_ne_nil {cs : List Char} (h : cs.dropWhile p ≠ []) (rest : List Char) :
    (cs ++ rest).dropWhile p = cs.dropWhile p ++ rest := by
  rw [List.dropWhile_append, if_neg (by simpa using h)]

/-- What is dropped before a text of which nothing is dropped. -/
theorem dropWhile_append_stay {stay : List Char} (hstay : stay.dropWhile p = stay)
    (cs : List Char) : (cs ++ stay).dropWhile p = cs.dropWhile p ++ stay := by
  rw [List.dropWhile_append]
  split
  · next hnil => rw [List.isEmpty_iff.1 hnil, hstay, List.nil_append]
  · rfl

/-! ### The end of a text -/

/-- Trimming takes characters of a class from the end. -/
theorem exists_trimRight (p : Char → Bool) (cs : List Char) :
    ∃ dropped, cs = trimRight p cs ++ dropped ∧ ∀ c ∈ dropped, p c = true := by
  refine ⟨(cs.reverse.takeWhile p).reverse, ?_, fun c hc => ?_⟩
  · rw [trimRight, ← List.reverse_append, List.takeWhile_append_dropWhile, List.reverse_reverse]
  · exact List.all_eq_true.1 List.all_takeWhile c (List.mem_reverse.1 hc)

/-- Nothing is trimmed in front of a character that is not of the class. -/
theorem trimRight_append_cons {c : Char} (hc : p c = false) (cs rest : List Char) :
    trimRight p (cs ++ c :: rest) = cs ++ c :: trimRight p rest := by
  have hreverse : (cs ++ c :: rest).reverse = rest.reverse ++ c :: cs.reverse := by
    rw [List.reverse_append, List.reverse_cons, List.append_assoc, List.singleton_append]
  have hstay : (c :: cs.reverse).dropWhile p = c :: cs.reverse :=
    List.dropWhile_cons_of_neg (by simp [hc])
  rw [trimRight, hreverse, List.dropWhile_append, hstay, trimRight]
  split
  · next hnil =>
    rw [List.isEmpty_iff.1 hnil, List.reverse_cons, List.reverse_reverse]
    rfl
  · rw [List.reverse_append, List.reverse_cons, List.reverse_reverse, List.append_assoc,
      List.singleton_append]

theorem trimRight_stop {stop : List Char} (hstop : ∀ c ∈ stop, p c = false) :
    trimRight p stop = stop := by
  rw [trimRight, dropWhile_stop fun c hc => hstop c (List.mem_reverse.1 hc), List.reverse_reverse]

/-- There is nothing behind a text that is not trimmed. -/
theorem eq_nil_of_trimRight {cs rest : List Char} (h : trimRight p (cs ++ rest) = cs ++ rest)
    (hrest : ∀ c ∈ rest, p c = true) : rest = [] := by
  have htrim : trimRight p (cs ++ rest) = trimRight p cs := by
    rw [trimRight, List.reverse_append,
      List.dropWhile_append_of_pos fun c hc => hrest c (List.mem_reverse.1 hc), trimRight]
  have hle : (trimRight p cs).length ≤ cs.length := by
    obtain ⟨dropped, hcs, -⟩ := exists_trimRight p cs
    have hlength := congrArg List.length hcs
    rw [List.length_append] at hlength
    omega
  have hlength := congrArg List.length (htrim.symm.trans h)
  rw [List.length_append] at hlength
  exact List.eq_nil_of_length_eq_zero (by omega)

/-! ### Both ends of a text -/

/-- Whether no character of a class stands at either end of a text. -/
structure Trimmed (p : Char → Bool) (cs : List Char) : Prop where
  head : ∀ c ∈ cs.head?, p c = false
  last : ∀ c ∈ cs.getLast?, p c = false

instance (p : Char → Bool) (cs : List Char) : Decidable (Trimmed p cs) :=
  decidable_of_iff (cs.head?.all (!p ·) = true ∧ cs.getLast?.all (!p ·) = true) <| by
    simp only [Option.all_eq_true, Bool.not_eq_true']
    exact ⟨fun h => ⟨h.1, h.2⟩, fun h => ⟨h.head, h.last⟩⟩

theorem Trimmed.of_forall {cs : List Char} (h : ∀ c ∈ cs, p c = false) : Trimmed p cs where
  head c hc := h c (List.mem_of_mem_head? hc)
  last c hc := h c (List.mem_of_mem_getLast? hc)

/-- What stands between two trimmed texts, if there are two, is not at an end. -/
theorem Trimmed.append_append {before after : List Char} (hbefore : Trimmed p before)
    (hafter : Trimmed p after) (hne : before ≠ []) (hne' : after ≠ []) (cs : List Char) :
    Trimmed p (before ++ cs ++ after) where
  head c hc := by
    rw [List.append_assoc, List.head?_append_of_ne_nil _ hne] at hc
    exact hbefore.head c hc
  last c hc := by
    rw [List.getLast?_append_of_ne_nil _ hne'] at hc
    exact hafter.last c hc

/-- Trimming takes characters of a class from the ends. -/
theorem exists_trimBy (p : Char → Bool) (cs : List Char) :
    ∃ before after, cs = before ++ trimBy p cs ++ after ∧
      (∀ c ∈ before, p c = true) ∧ ∀ c ∈ after, p c = true := by
  obtain ⟨after, hright, hafter⟩ := exists_trimRight p (trimLeft p cs)
  refine ⟨cs.takeWhile p, after, ?_, fun c hc => ?_, hafter⟩
  · rw [trimBy, List.append_assoc, ← hright, trimLeft, List.takeWhile_append_dropWhile]
  · exact List.all_eq_true.1 List.all_takeWhile c hc

theorem trimmed_trimBy (p : Char → Bool) (cs : List Char) : Trimmed p (trimBy p cs) := by
  refine ⟨fun c hc => ?_, fun c hc => ?_⟩
  · -- What is left at the start is not trimmed at the end, unless all is.
    obtain ⟨after, hright, -⟩ := exists_trimRight p (trimLeft p cs)
    have hhead : (trimLeft p cs).head? = some c := by
      rw [hright, List.head?_append, ← trimBy, hc]
      rfl
    have hstays := List.head?_dropWhile_not p cs
    rw [← trimLeft, hhead] at hstays
    exact hstays
  · obtain ⟨hne, rfl⟩ := List.mem_getLast?_eq_getLast hc
    exact Bool.eq_false_iff.2 (List.rdropWhile_last_not p (trimLeft p cs) hne)

/-- A trimmed text is what is left of it and any characters of the class around it. -/
theorem trimBy_append {before cs after : List Char} (h : Trimmed p cs)
    (hbefore : ∀ c ∈ before, p c = true) (hafter : ∀ c ∈ after, p c = true) :
    trimBy p (before ++ cs ++ after) = cs := by
  have hreverse : ∀ c ∈ after.reverse, p c = true := fun c hc => hafter c (List.mem_reverse.1 hc)
  rw [trimBy, trimLeft, List.append_assoc, List.dropWhile_append_of_pos hbefore]
  cases cs with
  | nil =>
    rw [List.nil_append, List.dropWhile_eq_nil_iff.2 hafter]
    rfl
  | cons c cs =>
    have hlast : ∀ hne : c :: cs ≠ [], ¬ p ((c :: cs).getLast hne) = true := fun hne =>
      Bool.eq_false_iff.1 (h.last _ (List.getLast?_eq_some_getLast hne))
    rw [List.cons_append, List.dropWhile_cons_of_neg (Bool.eq_false_iff.1 (h.head c rfl)),
      ← List.cons_append, trimRight, List.reverse_append, List.dropWhile_append_of_pos hreverse]
    exact List.rdropWhile_eq_self_iff.2 hlast

/-- More characters of the class at the ends of a text make no difference. -/
theorem trimBy_append_append {before after : List Char} (hbefore : ∀ c ∈ before, p c = true)
    (hafter : ∀ c ∈ after, p c = true) (cs : List Char) :
    trimBy p (before ++ cs ++ after) = trimBy p cs := by
  obtain ⟨start, stop, hcs, hstart, hstop⟩ := exists_trimBy p cs
  have hends : before ++ cs ++ after = before ++ start ++ trimBy p cs ++ (stop ++ after) := by
    conv_lhs => rw [hcs]
    simp only [List.append_assoc]
  rw [hends]
  exact trimBy_append (trimmed_trimBy p cs)
    (fun c hc => (List.mem_append.1 hc).elim (hbefore c) (hstart c))
    (fun c hc => (List.mem_append.1 hc).elim (hstop c) (hafter c))

/-- A change of characters that keeps to the class can be made before or after. -/
theorem trimBy_map {f : Char → Char} (hf : ∀ c, p (f c) = p c) (cs : List Char) :
    trimBy p (cs.map f) = (trimBy p cs).map f := by
  have hclass : p ∘ f = p := funext hf
  rw [trimBy, trimLeft, trimRight, List.dropWhile_map, ← List.map_reverse, List.dropWhile_map,
    ← List.map_reverse, hclass]
  rfl

theorem mem_of_mem_trimBy {cs : List Char} {c : Char} (h : c ∈ trimBy p cs) : c ∈ cs := by
  obtain ⟨before, after, hcs, -⟩ := exists_trimBy p cs
  rw [hcs]
  exact List.mem_append_left _ (List.mem_append_right _ h)

/-- Nothing is left of a text if it has characters of the class only. -/
theorem trimBy_eq_nil_iff {cs : List Char} : trimBy p cs = [] ↔ ∀ c ∈ cs, p c = true := by
  constructor
  · intro hnil
    obtain ⟨before, after, hcs, hbefore, hafter⟩ := exists_trimBy p cs
    rw [hcs, hnil, List.append_nil]
    exact fun c hc => (List.mem_append.1 hc).elim (hbefore c) (hafter c)
  · intro hall
    rw [trimBy, trimLeft, List.dropWhile_eq_nil_iff.2 hall]
    rfl

end SyntheticLoad.Text
