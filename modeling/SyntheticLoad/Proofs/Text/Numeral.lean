import SyntheticLoad.Text.Numeral

/-!
# Numerals are read back

The numeral of a number has digits only, and begins with a zero only if it is a single one
(`digits_eq_zero_or_head`). Read back, it is the number, as long as the range that is read has it
(`readDigits_digits`); so are the numerals of all integers of 64 bits (`readInt64_integer`).
-/

namespace SyntheticLoad.Text

/-! ### Digits -/

theorem isDigit_digit {d : Nat} (h : d < 10) : (digit d).isDigit = true := by
  have hall : ∀ d < 10, (digit d).isDigit = true := by decide
  exact hall d h

theorem digitValue?_digit {d : Nat} (h : d < 10) : digitValue? (digit d) = some d := by
  have hall : ∀ d < 10, digitValue? (digit d) = some d := by decide
  exact hall d h

theorem digits_of_lt {n : Nat} (h : n < 10) : digits n = [digit n] := by
  rw [digits, if_pos h]

/-- The last digit comes off the end. -/
theorem digits_of_le {n : Nat} (h : 10 ≤ n) : digits n = digits (n / 10) ++ [digit (n % 10)] := by
  rw [digits, if_neg (by omega)]

theorem digits_isDigit (n : Nat) : ∀ c ∈ digits n, c.isDigit = true := by
  induction n using Nat.strongRecOn with
  | ind n ih =>
    intro c hc
    rcases Nat.lt_or_ge n 10 with hlt | hge
    · rw [digits_of_lt hlt, List.mem_singleton] at hc
      exact hc ▸ isDigit_digit hlt
    · rw [digits_of_le hge, List.mem_append, List.mem_singleton] at hc
      rcases hc with hc | rfl
      · exact ih (n / 10) (by omega) c hc
      · exact isDigit_digit (by omega)

theorem digits_ne_nil (n : Nat) : digits n ≠ [] := by
  rcases Nat.lt_or_ge n 10 with hlt | hge
  · rw [digits_of_lt hlt]
    exact List.cons_ne_nil _ _
  · rw [digits_of_le hge]
    exact List.append_ne_nil_of_right_ne_nil _ (List.cons_ne_nil _ _)

/-- Zero is written as a zero, and every other number begins with another digit. -/
theorem digits_eq_zero_or_head (n : Nat) :
    digits n = ['0'] ∨ ∃ c cs, digits n = c :: cs ∧ c ≠ '0' := by
  induction n using Nat.strongRecOn with
  | ind n ih =>
    rcases Nat.lt_or_ge n 10 with hlt | hge
    · have hall : ∀ n < 10, [digit n] = ['0'] ∨ digit n ≠ '0' := by decide
      rw [digits_of_lt hlt]
      exact (hall n hlt).imp_right fun hne => ⟨digit n, [], rfl, hne⟩
    · rw [digits_of_le hge]
      rcases ih (n / 10) (by omega) with hzero | ⟨c, cs, hcs, hne⟩
      · -- What stands before the last digit is not zero.
        rcases Nat.lt_or_ge (n / 10) 10 with hlt | hge'
        · have hall : ∀ m < 10, 0 < m → digit m ≠ '0' := by decide
          rw [digits_of_lt hlt, List.cons.injEq] at hzero
          exact absurd hzero.1 (hall _ hlt (by omega))
        · have hpos : 0 < (digits (n / 10 / 10)).length :=
            List.length_pos_iff.2 (digits_ne_nil _)
          have hlen := congrArg List.length hzero
          rw [digits_of_le hge', List.length_append, List.length_singleton, List.length_singleton]
            at hlen
          omega
      · rw [hcs]
        exact .inr ⟨c, cs ++ [digit (n % 10)], rfl, hne⟩

theorem padded_isDigit (width n : Nat) : ∀ c ∈ padded width n, c.isDigit = true := by
  intro c hc
  rcases List.mem_append.1 hc with hc | hc
  · rw [(List.mem_replicate.1 hc).2]
    rfl
  · exact digits_isDigit n c hc

theorem padded_ne_nil (width n : Nat) : padded width n ≠ [] :=
  List.append_ne_nil_of_right_ne_nil _ (digits_ne_nil n)

/-! ### Reading -/

theorem readDigits_append (bound : Nat) (beyond : NumeralError) (m : Nat) (cs ds : List Char) :
    readDigits bound beyond m (cs ++ ds) =
      (readDigits bound beyond m cs).bind fun n => readDigits bound beyond n ds := by
  induction cs generalizing m with
  | nil => rfl
  | cons c cs ih =>
    rw [List.cons_append, readDigits, readDigits]
    split
    · rfl
    · split
      · rfl
      · exact ih _

/-- A number is read off its numeral, if it is within the range. -/
theorem readDigits_digits {bound n : Nat} (beyond : NumeralError) (h : n ≤ bound) :
    readDigits bound beyond 0 (digits n) = .ok n := by
  induction n using Nat.strongRecOn with
  | ind n ih =>
    rcases Nat.lt_or_ge n 10 with hlt | hge
    · rw [digits_of_lt hlt, readDigits, digitValue?_digit hlt]
      simp only
      rw [if_neg (by omega), readDigits, Nat.zero_mul, Nat.zero_add]
    · have hn : n / 10 * 10 + n % 10 = n := Nat.div_add_mod' n 10
      rw [digits_of_le hge, readDigits_append, ih (n / 10) (by omega) (by omega)]
      simp only [Except.bind]
      rw [readDigits, digitValue?_digit (Nat.mod_lt n (by decide))]
      simp only
      rw [hn, if_neg (by omega), readDigits]

/-- A numeral has no sign. -/
theorem head_digits (n : Nat) : ∃ c cs, digits n = c :: cs ∧ c ≠ '+' ∧ c ≠ '-' := by
  obtain ⟨c, cs, hcs⟩ := List.exists_cons_of_ne_nil (digits_ne_nil n)
  have hc : c.isDigit = true := digits_isDigit n c (hcs ▸ List.mem_cons_self)
  refine ⟨c, cs, hcs, ?_, ?_⟩ <;>
  · rintro rfl
    exact absurd hc (by decide)

/-- Zeros in front of digits make no difference. -/
theorem readDigits_zeros (bound : Nat) (beyond : NumeralError) (zeros : Nat) (cs : List Char) :
    readDigits bound beyond 0 (List.replicate zeros '0' ++ cs) = readDigits bound beyond 0 cs := by
  induction zeros with
  | zero => rfl
  | succ zeros ih => exact ih

theorem readNat_cons {c : Char} (h : c ≠ '+') (bound : Nat) (cs : List Char) :
    readNat bound (c :: cs) = readDigits bound .tooLarge 0 (c :: cs) := by
  rw [readNat]
  · exact List.cons_ne_nil _ _
  · exact fun heq => h (List.cons.inj heq).1
  · exact fun _ heq => h (List.cons.inj heq).1

/-- A number is read off its numeral with zeros in front of it, if it is within the range. -/
theorem readNat_zeros {bound n : Nat} (zeros : Nat) (h : n ≤ bound) :
    readNat bound (List.replicate zeros '0' ++ digits n) = .ok n := by
  have hread := (readDigits_zeros bound .tooLarge zeros _).trans (readDigits_digits .tooLarge h)
  obtain ⟨c, cs, hcs, hplus⟩ : ∃ c cs,
      List.replicate zeros '0' ++ digits n = c :: cs ∧ c ≠ '+' := by
    cases zeros with
    | zero =>
      obtain ⟨c, cs, hcs, hplus, -⟩ := head_digits n
      exact ⟨c, cs, hcs, hplus⟩
    | succ zeros => exact ⟨'0', _, rfl, by decide⟩
  rw [hcs] at hread ⊢
  rw [readNat_cons hplus, hread]

/-- The numeral of a number of 64 bits, with zeros in front of it, is read as that number. -/
theorem readWord_zeros (zeros : Nat) (n : UInt64) :
    readWord (List.replicate zeros '0' ++ digits n.toNat) = .ok n := by
  have hle : n.toNat ≤ maxWord := Nat.le_of_lt_succ n.toNat_lt_size
  rw [readWord, readNat_zeros zeros hle]
  exact congrArg Except.ok UInt64.ofNat_toNat

/-- The numeral of a signed number of 64 bits is read as that number. -/
theorem readInt64_integer (n : Int64) : readInt64 (integer n.toInt) = .ok n := by
  have hlow : -9223372036854775808 ≤ n.toInt := Int64.le_toInt n
  have hhigh : n.toInt < 9223372036854775808 := Int64.toInt_lt n
  have hback : Int64.ofInt n.toInt = n := Int64.ofInt_toInt n
  cases hn : n.toInt with
  | ofNat m =>
    have hm : m ≤ maxInt64 := by
      rw [hn, Int.ofNat_eq_natCast] at hhigh
      rw [maxInt64]
      omega
    have hread := readDigits_digits .tooLarge hm
    obtain ⟨c, cs, hcs, hplus, hminus⟩ := head_digits m
    rw [hn] at hback
    rw [hcs] at hread
    rw [integer, hcs, readInt64]
    · rw [hread]
      exact congrArg Except.ok hback
    · exact List.cons_ne_nil _ _
    · exact fun heq => hplus (List.cons.inj heq).1
    · exact fun heq => hminus (List.cons.inj heq).1
    · exact fun _ heq => hplus (List.cons.inj heq).1
    · exact fun _ heq => hminus (List.cons.inj heq).1
  | negSucc m =>
    have hm : m + 1 ≤ maxInt64 + 1 := by
      rw [hn, Int.negSucc_eq] at hlow
      rw [maxInt64]
      omega
    have hread := readDigits_digits .tooSmall hm
    rw [hn, Int.negSucc_eq] at hback
    rw [integer, readInt64, hread]
    · exact congrArg Except.ok hback
    · exact digits_ne_nil _

end SyntheticLoad.Text
