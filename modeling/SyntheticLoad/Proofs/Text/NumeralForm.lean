import Mathlib.Algebra.Ring.Int.Defs
import SyntheticLoad.Proofs.Text.Numeral

/-!
# What is read as a number

A numeral is at least one decimal digit, leading zeros allowed, and its value is that of the
digits in base ten (`IsNumeral`). The readers of numbers take a sign in front of it, and they
take nothing else: `readNat` accepts exactly the unsigned numerals up to its bound
(`readNat_eq_ok_iff`), and `readInt64` the signed ones of 64 bits (`readInt64_eq_ok_iff`).
A text that is too long for the range is refused for its value, not for its length.
-/

namespace SyntheticLoad.Text

/-! ### Forms -/

/-- A text is a decimal numeral of a number: digits only, and at least one. -/
def IsNumeral (cs : List Char) (n : Nat) : Prop :=
  cs ≠ [] ∧ (∀ c ∈ cs, c.isDigit) ∧ Nat.ofDigitChars 10 cs 0 = n

/-- A numeral, or a numeral with a plus sign in front of it. -/
def IsUnsigned (cs : List Char) (n : Nat) : Prop :=
  IsNumeral cs n ∨ ∃ ds, cs = '+' :: ds ∧ IsNumeral ds n

/-- An unsigned numeral of an integer, or a numeral with a minus sign in front of it. -/
def IsSigned (cs : List Char) (v : Int64) : Prop :=
  ∃ n : Nat, (IsUnsigned cs n ∧ v.toInt = n) ∨ ∃ ds, cs = '-' :: ds ∧ IsNumeral ds n ∧ v.toInt = -n

/-! ### Digits -/

theorem digits_eq_toDigits (n : Nat) : digits n = Nat.toDigits 10 n := by
  induction n using Nat.strongRecOn with
  | ind n ih =>
    have hdigit : ∀ d < 10, digit d = d.digitChar := by decide
    rcases Nat.lt_or_ge n 10 with hlt | hge
    · rw [digits_of_lt hlt, Nat.toDigits_of_lt_base hlt, hdigit n hlt]
    · rw [digits_of_le hge, Nat.toDigits_of_base_le (by decide) hge, ih (n / 10) (by omega),
        hdigit _ (Nat.mod_lt n (by decide))]

/-- The value of the digits of a number is the number. -/
theorem ofDigitChars_digits (n : Nat) : Nat.ofDigitChars 10 (digits n) 0 = n := by
  rw [digits_eq_toDigits, Nat.ofDigitChars_toDigits (by decide) (by decide)]

theorem digits_injective : Function.Injective digits :=
  Function.LeftInverse.injective ofDigitChars_digits

theorem numeral_injective : Function.Injective numeral := fun _ _ h =>
  digits_injective (String.ofList_injective h)

theorem digitValue?_eq (c : Char) :
    digitValue? c = if c.isDigit then some (c.toNat - '0'.toNat) else none := by
  have hdigit : '0' ≤ c ∧ c ≤ '9' ↔ c.isDigit := by
    simp [Char.isDigit, Char.le_def]
  rw [digitValue?]
  simp only [hdigit]
  rfl

theorem le_ofDigitChars (cs : List Char) (m : Nat) : m ≤ Nat.ofDigitChars 10 cs m := by
  have hpos : 0 < 10 ^ cs.length := Nat.pow_pos (by decide)
  calc
    m ≤ 10 ^ cs.length * m := Nat.le_mul_of_pos_left m hpos
    _ ≤ 10 ^ cs.length * m + Nat.ofDigitChars 10 cs 0 := Nat.le_add_right _ _
    _ = Nat.ofDigitChars 10 cs m := Nat.ofDigitChars_eq_ofDigitChars_zero.symm

/-- Digits are read if their value is within the range, so what is read before the last of
    them is within it too. -/
theorem readDigits_eq_ok_iff {bound m n : Nat} {beyond : NumeralError} {cs : List Char}
    (hm : m ≤ bound) :
    readDigits bound beyond m cs = .ok n ↔
      (∀ c ∈ cs, c.isDigit) ∧ Nat.ofDigitChars 10 cs m = n ∧ n ≤ bound := by
  induction cs generalizing m with
  | nil =>
    simp only [readDigits, Except.ok.injEq, List.not_mem_nil, false_imp_iff, implies_true, true_and]
    constructor
    · rintro rfl
      exact ⟨rfl, hm⟩
    · exact And.left
  | cons c cs ih =>
    rw [readDigits, digitValue?_eq, Nat.ofDigitChars_cons, List.forall_mem_cons,
      Nat.mul_comm m 10]
    by_cases hc : c.isDigit
    · have hle := le_ofDigitChars cs (10 * m + (c.toNat - '0'.toNat))
      by_cases hbeyond : bound < 10 * m + (c.toNat - '0'.toNat)
      · simp only [hc, if_true, hbeyond]
        constructor
        · rintro ⟨⟩
        · rintro ⟨-, rfl, hn⟩
          omega
      · simp only [hc, if_true, hbeyond, if_false, true_and]
        exact ih (Nat.not_lt.1 hbeyond)
    · simp [hc]

/-- Without digits nothing is read; otherwise digits are read as the numeral that they are. -/
theorem readDigits_cons_eq_ok_iff {bound n : Nat} {beyond : NumeralError} {c : Char}
    {cs : List Char} :
    readDigits bound beyond 0 (c :: cs) = .ok n ↔ IsNumeral (c :: cs) n ∧ n ≤ bound := by
  rw [readDigits_eq_ok_iff (Nat.zero_le bound), IsNumeral]
  simp [and_assoc]

/-! ### Signs -/

theorem IsNumeral.not_sign {c : Char} {cs : List Char} {n : Nat} (h : IsNumeral (c :: cs) n) :
    c ≠ '+' ∧ c ≠ '-' := by
  have hc : c.isDigit := h.2.1 c List.mem_cons_self
  constructor <;>
  · rintro rfl
    exact absurd hc (by decide)

theorem isUnsigned_plus {cs : List Char} {n : Nat} :
    IsUnsigned ('+' :: cs) n ↔ IsNumeral cs n := by
  constructor
  · rintro (h | ⟨ds, hds, h⟩)
    · exact absurd rfl h.not_sign.1
    · rw [(List.cons.inj hds).2]
      exact h
  · exact fun h => .inr ⟨cs, rfl, h⟩

theorem isUnsigned_cons {c : Char} (hc : c ≠ '+') {cs : List Char} {n : Nat} :
    IsUnsigned (c :: cs) n ↔ IsNumeral (c :: cs) n := by
  constructor
  · rintro (h | ⟨ds, hds, -⟩)
    · exact h
    · exact absurd (List.cons.inj hds).1 hc
  · exact .inl

theorem not_isUnsigned_nil {n : Nat} : ¬IsUnsigned [] n := by
  rintro (h | ⟨ds, hds, -⟩)
  · exact h.1 rfl
  · exact absurd hds (by simp)

/-- What is not a digit and no plus sign stands in no unsigned numeral. -/
theorem IsUnsigned.not_mem {cs : List Char} {n : Nat} (h : IsUnsigned cs n) {c : Char}
    (hdigit : c.isDigit = false) (hplus : c ≠ '+') : c ∉ cs := by
  intro hc
  rcases h with h | ⟨ds, rfl, h⟩
  · exact absurd (h.2.1 c hc) (by simp [hdigit])
  · rcases List.mem_cons.1 hc with rfl | hc
    · exact hplus rfl
    · exact absurd (h.2.1 c hc) (by simp [hdigit])

theorem IsSigned.not_mem {cs : List Char} {v : Int64} (h : IsSigned cs v) {c : Char}
    (hdigit : c.isDigit = false) (hplus : c ≠ '+') (hminus : c ≠ '-') : c ∉ cs := by
  obtain ⟨n, ⟨h, -⟩ | ⟨ds, rfl, h, -⟩⟩ := h
  · exact h.not_mem hdigit hplus
  · rw [List.mem_cons, not_or]
    exact ⟨hminus, IsUnsigned.not_mem (.inl h) hdigit hplus⟩

/-! ### Readers -/

/-- The numbers that are read are those of the unsigned numerals, up to the bound. -/
theorem readNat_eq_ok_iff {bound n : Nat} {cs : List Char} :
    readNat bound cs = .ok n ↔ IsUnsigned cs n ∧ n ≤ bound := by
  rcases cs with _ | ⟨c, cs⟩
  · simp [readNat, not_isUnsigned_nil]
  by_cases hc : c = '+'
  · subst hc
    rw [isUnsigned_plus]
    rcases cs with _ | ⟨d, ds⟩
    · simp [readNat, IsNumeral]
    · exact readDigits_cons_eq_ok_iff
  · rw [readNat_cons hc, isUnsigned_cons hc]
    exact readDigits_cons_eq_ok_iff

/-- An integer of 64 bits is the one that its value makes. -/
theorem ofInt_eq_iff {i : Int} {v : Int64} (hlow : -2 ^ 63 ≤ i) (hhigh : i < 2 ^ 63) :
    Int64.ofInt i = v ↔ v.toInt = i := by
  constructor
  · rintro rfl
    exact Int64.toInt_ofInt_of_le hlow hhigh
  · rintro rfl
    exact Int64.ofInt_toInt v

theorem toOption_eq_some_iff {ε α : Type} {e : Except ε α} {a : α} :
    e.toOption = some a ↔ e = .ok a := by
  rcases e with e | b <;> simp [Except.toOption]

theorem map_eq_ok_iff {ε α β : Type} {f : α → β} {e : Except ε α} {b : β} :
    e.map f = .ok b ↔ ∃ a, e = .ok a ∧ f a = b := by
  rcases e with e | a <;> simp [Except.map]

/-- Digits are read as the integer that a sign makes of their value, if the range of the digits
    is that of 64 bits. -/
theorem map_readDigits_eq_ok_iff {bound : Nat} {beyond : NumeralError} (signed : Nat → Int)
    (hrange : ∀ n, n ≤ bound ↔ -2 ^ 63 ≤ signed n ∧ signed n < 2 ^ 63) {c : Char}
    {cs : List Char} {v : Int64} :
    ((readDigits bound beyond 0 (c :: cs)).map fun n => Int64.ofInt (signed n)) = .ok v ↔
      ∃ n, IsNumeral (c :: cs) n ∧ v.toInt = signed n := by
  rw [map_eq_ok_iff]
  refine exists_congr fun n => ?_
  rw [readDigits_cons_eq_ok_iff, and_assoc, hrange]
  refine and_congr_right fun _ => ⟨?_, fun hv => ?_⟩
  · rintro ⟨⟨hlow, hhigh⟩, hv⟩
    exact (ofInt_eq_iff hlow hhigh).1 hv
  · have hin : -2 ^ 63 ≤ signed n ∧ signed n < 2 ^ 63 := hv ▸ ⟨v.le_toInt, v.toInt_lt⟩
    exact ⟨hin, (ofInt_eq_iff hin.1 hin.2).2 hv⟩

theorem readInt64_plus (c : Char) (cs : List Char) :
    readInt64 ('+' :: c :: cs) =
      (readDigits maxInt64 .tooLarge 0 (c :: cs)).map fun n : Nat => Int64.ofInt n := by
  rw [readInt64]
  · rcases readDigits maxInt64 .tooLarge 0 (c :: cs) with e | n <;> rfl
  · exact List.cons_ne_nil c cs

theorem readInt64_minus (c : Char) (cs : List Char) :
    readInt64 ('-' :: c :: cs) =
      (readDigits (maxInt64 + 1) .tooSmall 0 (c :: cs)).map fun n : Nat => Int64.ofInt (-n) := by
  rw [readInt64]
  · rcases readDigits (maxInt64 + 1) .tooSmall 0 (c :: cs) with e | n <;> rfl
  · exact List.cons_ne_nil c cs

theorem readInt64_cons {c : Char} (hplus : c ≠ '+') (hminus : c ≠ '-') (cs : List Char) :
    readInt64 (c :: cs) =
      (readDigits maxInt64 .tooLarge 0 (c :: cs)).map fun n : Nat => Int64.ofInt n := by
  rw [readInt64]
  · rcases readDigits maxInt64 .tooLarge 0 (c :: cs) with e | n <;> rfl
  · exact List.cons_ne_nil _ _
  · exact fun heq => hplus (List.cons.inj heq).1
  · exact fun heq => hminus (List.cons.inj heq).1
  · exact fun _ heq => hplus (List.cons.inj heq).1
  · exact fun _ heq => hminus (List.cons.inj heq).1

theorem not_isSigned_nil {v : Int64} : ¬IsSigned [] v := by
  rintro ⟨n, ⟨h, -⟩ | ⟨ds, hds, -⟩⟩
  · exact not_isUnsigned_nil h
  · exact absurd hds (by simp)

/-- The integers that are read are those of the signed numerals. -/
theorem readInt64_eq_ok_iff {cs : List Char} {v : Int64} :
    readInt64 cs = .ok v ↔ IsSigned cs v := by
  have hplain (n : Nat) : n ≤ maxInt64 ↔ -2 ^ 63 ≤ (n : Int) ∧ (n : Int) < 2 ^ 63 := by
    rw [maxInt64]
    omega
  -- There is one more integer below zero than above it.
  have hnegated (n : Nat) : n ≤ maxInt64 + 1 ↔ -2 ^ 63 ≤ -(n : Int) ∧ -(n : Int) < 2 ^ 63 := by
    rw [maxInt64]
    omega
  rcases cs with _ | ⟨c, cs⟩
  · simp [readInt64, not_isSigned_nil]
  by_cases hminus : c = '-'
  · subst hminus
    have hsigned : IsSigned ('-' :: cs) v ↔ ∃ n : Nat, IsNumeral cs n ∧ v.toInt = -n := by
      simp [IsSigned, isUnsigned_cons, IsNumeral, Char.isDigit]
    rw [hsigned]
    rcases cs with _ | ⟨d, ds⟩
    · simp [readInt64, IsNumeral]
    · rw [readInt64_minus]
      exact map_readDigits_eq_ok_iff (fun n => -n) hnegated
  have hsigned : IsSigned (c :: cs) v ↔ ∃ n : Nat, IsUnsigned (c :: cs) n ∧ v.toInt = n := by
    simp [IsSigned, hminus]
  rw [hsigned]
  by_cases hplus : c = '+'
  · subst hplus
    simp only [isUnsigned_plus]
    rcases cs with _ | ⟨d, ds⟩
    · simp [readInt64, IsNumeral]
    · rw [readInt64_plus]
      exact map_readDigits_eq_ok_iff (fun n => n) hplain
  · simp only [isUnsigned_cons hplus]
    rw [readInt64_cons hplus hminus]
    exact map_readDigits_eq_ok_iff (fun n => n) hplain

end SyntheticLoad.Text
