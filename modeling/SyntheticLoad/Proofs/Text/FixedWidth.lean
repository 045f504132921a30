import Mathlib.Algebra.Group.Nat.Defs
import Mathlib.Data.Char
import Mathlib.Data.List.Lex
import SyntheticLoad.Proofs.Text.NumeralForm

/-!
# Numerals of a fixed width

A numeral that is filled up with zeros is a numeral of the same number (`isNumeral_padded`), and
it has exactly the width if the number has no more digits than that (`length_padded`). Such
numerals are compared as texts are: the smaller text is the smaller number
(`ofDigitChars_lt_of_lt`), so texts of several of them in a row are in the order of the first
numbers that differ (`padded_append_lt`).
-/

namespace SyntheticLoad.Text

/-! ### Padding -/

theorem IsNumeral.not_mem {cs : List Char} {n : Nat} (h : IsNumeral cs n) {c : Char}
    (hc : c.isDigit = false) : c ∉ cs := fun hmem => by
  rw [h.2.1 c hmem] at hc
  cases hc

/-- Zeros in front of a numeral do not count. -/
theorem isNumeral_padded (width n : Nat) : IsNumeral (padded width n) n := by
  refine ⟨padded_ne_nil width n, padded_isDigit width n, ?_⟩
  rw [padded, Nat.ofDigitChars_append, Nat.ofDigitChars_replicate_zero, Nat.mul_zero,
    ofDigitChars_digits]

theorem le_length_padded (width n : Nat) : width ≤ (padded width n).length := by
  rw [padded, List.length_append, List.length_replicate]
  omega

/-- A number that has no more digits than that is filled up to exactly the width. -/
theorem length_padded {width n : Nat} (hwidth : 0 < width) (h : n < 10 ^ width) :
    (padded width n).length = width := by
  have hle : (digits n).length ≤ width := by
    rw [digits_eq_toDigits]
    exact (Nat.length_toDigits_le_iff (by decide) hwidth).2 h
  rw [padded, List.length_append, List.length_replicate, Nat.sub_add_cancel hle]

/-! ### Order -/

theorem digit_bounds {c : Char} (h : c.isDigit) : '0'.toNat ≤ c.toNat ∧ c.toNat ≤ '9'.toNat := by
  simp only [Char.isDigit, ge_iff_le, Bool.and_eq_true, decide_eq_true_eq,
    UInt32.le_iff_toNat_le] at h
  exact h

/-- Digits make up less than a one with as many zeros. -/
theorem ofDigitChars_lt {cs : List Char} (h : ∀ c ∈ cs, c.isDigit) :
    Nat.ofDigitChars 10 cs 0 < 10 ^ cs.length := by
  induction cs with
  | nil => decide
  | cons c cs ih =>
    rw [List.forall_mem_cons] at h
    have hc : c.toNat - '0'.toNat < 10 := by
      have hbounds := digit_bounds h.1
      simp only [Char.reduceToNat] at *
      omega
    rw [Nat.ofDigitChars_cons, Nat.ofDigitChars_eq_ofDigitChars_zero, Nat.mul_zero, Nat.zero_add]
    calc 10 ^ cs.length * (c.toNat - '0'.toNat) + Nat.ofDigitChars 10 cs 0
        < 10 ^ cs.length * (c.toNat - '0'.toNat) + 10 ^ cs.length := Nat.add_lt_add_left (ih h.2) _
      _ = 10 ^ cs.length * (c.toNat - '0'.toNat + 1) := (Nat.mul_succ _ _).symm
      _ ≤ 10 ^ cs.length * 10 := Nat.mul_le_mul_left _ hc

/-- Of two texts of as many digits the smaller one makes up the smaller number. -/
theorem ofDigitChars_lt_of_lt {cs ds : List Char} (hlen : cs.length = ds.length)
    (hcs : ∀ c ∈ cs, c.isDigit) (hds : ∀ d ∈ ds, d.isDigit) (h : cs < ds) :
    Nat.ofDigitChars 10 cs 0 < Nat.ofDigitChars 10 ds 0 := by
  induction cs generalizing ds with
  | nil =>
    cases ds with
    | nil => exact absurd h (List.lt_irrefl _)
    | cons d ds => cases hlen
  | cons c cs ih =>
    cases ds with
    | nil => cases hlen
    | cons d ds =>
      rw [List.length_cons, List.length_cons, Nat.add_right_cancel_iff] at hlen
      rw [List.forall_mem_cons] at hcs hds
      rw [Nat.ofDigitChars_cons, Nat.ofDigitChars_cons, Nat.ofDigitChars_eq_ofDigitChars_zero,
        Nat.ofDigitChars_eq_ofDigitChars_zero (l := ds), ← hlen, Nat.mul_zero, Nat.zero_add,
        Nat.zero_add]
      rcases List.cons_lt_cons_iff.1 h with hchar | ⟨rfl, hrest⟩
      · -- The first digits differ, and what follows cannot make up for it.
        have hvalue : c.toNat < d.toNat := UInt32.lt_iff_toNat_lt.1 hchar
        have hbounds := digit_bounds hcs.1
        calc _ < 10 ^ cs.length * (c.toNat - '0'.toNat) + 10 ^ cs.length :=
            Nat.add_lt_add_left (ofDigitChars_lt hcs.2) _
          _ = 10 ^ cs.length * (c.toNat - '0'.toNat + 1) := (Nat.mul_succ _ _).symm
          _ ≤ 10 ^ cs.length * (d.toNat - '0'.toNat) :=
            Nat.mul_le_mul_left _ (by omega)
          _ ≤ _ := Nat.le_add_right _ _
      · exact Nat.add_lt_add_left (ih hlen hcs.2 hds.2 hrest) _

/-- Numerals of the same width are in the order of their numbers. -/
theorem padded_lt_padded {width m n : Nat} (hwidth : 0 < width) (hmn : m < n)
    (hn : n < 10 ^ width) : padded width m < padded width n := by
  have hlen : (padded width n).length = (padded width m).length :=
    (length_padded hwidth hn).trans (length_padded hwidth (hmn.trans hn)).symm
  obtain ⟨-, hm, hvalm⟩ := isNumeral_padded width m
  obtain ⟨-, hn', hvaln⟩ := isNumeral_padded width n
  rcases lt_trichotomy (padded width m) (padded width n) with hlt | heq | hgt
  · exact hlt
  · rw [heq, hvaln] at hvalm
    omega
  · have hvalue := ofDigitChars_lt_of_lt hlen hn' hm hgt
    omega

theorem append_lt_append_of_lt {cs ds : List Char} (hlen : cs.length = ds.length) (h : cs < ds)
    (xs ys : List Char) : cs ++ xs < ds ++ ys := by
  induction cs generalizing ds with
  | nil =>
    cases ds with
    | nil => exact absurd h (List.lt_irrefl _)
    | cons d ds => cases hlen
  | cons c cs ih =>
    cases ds with
    | nil => cases hlen
    | cons d ds =>
      rw [List.length_cons, List.length_cons, Nat.add_right_cancel_iff] at hlen
      exact List.cons_lt_cons_iff.2 ((List.cons_lt_cons_iff.1 h).imp_right
        fun hrest => ⟨hrest.1, ih hlen hrest.2⟩)

/-- Behind numerals of the same number, what follows decides; otherwise the numbers do. -/
theorem padded_append_lt {width m n : Nat} (hwidth : 0 < width) (hn : n < 10 ^ width)
    {xs ys : List Char} (h : m < n ∨ m = n ∧ xs < ys) :
    padded width m ++ xs < padded width n ++ ys := by
  rcases h with hlt | ⟨rfl, hrest⟩
  · have hlen := (length_padded hwidth (hlt.trans hn)).trans (length_padded hwidth hn).symm
    exact append_lt_append_of_lt hlen (padded_lt_padded hwidth hlt hn) xs ys
  · exact List.append_left_lt hrest

end SyntheticLoad.Text
