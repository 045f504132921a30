import SyntheticLoad.Proofs.Text.NumeralForm
import SyntheticLoad.Text.Grouped

/-!
# Grouped numerals

The groups of a grouped numeral are divided by commas, and nothing else is added to its digits:
without the commas it is the numeral itself (`filter_grouped`).

Behind each comma stands a group of three digits, and in front of the first comma there are one to
three (`exists_grouped_eq`). What carries this along the digits is how many of them are still to
come: as many as do not fill a group come before the next comma (`exists_groupedAfter_eq`). So
the number of commas depends on the number of digits alone (`length_grouped`), which does not
become smaller for a larger number.
-/

namespace SyntheticLoad.Text

/-! ### Digits and commas -/

theorem filter_groupedAfter {p : Char → Bool} (hcomma : p ',' = false) (cs : List Char) :
    (groupedAfter cs).filter p = cs.filter p := by
  induction cs with
  | nil => rfl
  | cons c cs ih =>
    rw [groupedAfter]
    split
    · rw [List.filter_cons_of_neg (by simp [hcomma]), List.filter_cons, List.filter_cons, ih]
    · rw [List.filter_cons, List.filter_cons, ih]

/-- What is left of a grouped numeral without its commas is the numeral. -/
theorem filter_grouped {p : Char → Bool} (hcomma : p ',' = false)
    (hdigit : ∀ c, c.isDigit → p c = true) (n : Nat) : (grouped n).filter p = digits n := by
  have hall : ∀ c ∈ digits n, p c = true := fun c hc => hdigit c (digits_isDigit n c hc)
  rw [grouped]
  split
  · next hnil => rw [hnil, List.filter_nil]
  · next c cs hcs =>
    rw [List.filter_cons, filter_groupedAfter hcomma, ← List.filter_cons, ← hcs]
    exact List.filter_eq_self.2 hall

theorem filter_ne_comma_grouped (n : Nat) : (grouped n).filter (· ≠ ',') = digits n := by
  refine filter_grouped (by decide) (fun c hc => decide_eq_true ?_) n
  rintro rfl
  exact absurd hc (by decide)

/-- In a grouped numeral there are commas and digits only. -/
theorem eq_comma_or_isDigit_of_mem_grouped {n : Nat} {c : Char} (hc : c ∈ grouped n) :
    c = ',' ∨ c.isDigit = true := by
  by_cases hcomma : c = ','
  · exact .inl hcomma
  · -- What is not a comma stays when the commas are taken away.
    have hmem : c ∈ (grouped n).filter (· ≠ ',') := List.mem_filter.2 ⟨hc, by simp [hcomma]⟩
    rw [filter_ne_comma_grouped] at hmem
    exact .inr (digits_isDigit n c hmem)

/-- No comma stands in front of the first digit. -/
theorem exists_grouped_cons (n : Nat) :
    ∃ c cs, digits n = c :: cs ∧ grouped n = c :: groupedAfter cs := by
  obtain ⟨c, cs, hcs⟩ := List.exists_cons_of_ne_nil (digits_ne_nil n)
  exact ⟨c, cs, hcs, by rw [grouped, hcs]⟩

theorem grouped_ne_nil (n : Nat) : grouped n ≠ [] := by
  obtain ⟨c, cs, -, heq⟩ := exists_grouped_cons n
  exact heq ▸ List.cons_ne_nil _ _

theorem grouped_injective : Function.Injective grouped := by
  intro m n heq
  have hdigits := congrArg (List.filter (· ≠ ',')) heq
  rw [filter_ne_comma_grouped, filter_ne_comma_grouped] at hdigits
  exact digits_injective hdigits

/-! ### Groups -/

/-- A text begins with a group of so many digits: behind them there is a comma or nothing. -/
def BeginsWithGroup (size : Nat) (cs : List Char) : Prop :=
  ∃ group rest, cs = group ++ rest ∧ group.length = size ∧ (∀ c ∈ group, c.isDigit = true) ∧
    ∀ c ∈ rest.head?, c = ','

/-- Any number of groups of three digits, each with a comma in front of it. -/
inductive Groups : List Char → Prop
  | nil : Groups []
  | cons {group rest : List Char} : group.length = 3 → (∀ c ∈ group, c.isDigit = true) →
      Groups rest → Groups (',' :: (group ++ rest))

theorem Groups.head {cs : List Char} (h : Groups cs) : ∀ c ∈ cs.head?, c = ',' := by
  cases h with
  | nil => exact fun c hc => absurd hc (by simp)
  | cons _ _ _ => exact fun c hc => (Option.some.inj hc).symm

/-- A comma behind digits does not stand among them. -/
theorem exists_eq_append_comma {group rest before after : List Char}
    (hdigits : ∀ c ∈ group, c.isDigit = true) (h : group ++ rest = before ++ ',' :: after) :
    ∃ later, rest = later ++ ',' :: after := by
  rcases List.append_eq_append_iff.1 h with ⟨later, -, hrest⟩ | ⟨later, hgroup, hrest⟩
  · exact ⟨later, hrest⟩
  · cases later with
    | nil => exact ⟨[], hrest.symm⟩
    | cons c later =>
      obtain ⟨rfl, -⟩ := List.cons.inj hrest
      have hcomma := hdigits ',' (hgroup ▸ List.mem_append_right before List.mem_cons_self)
      exact absurd hcomma (by decide)

theorem Groups.beginsWithGroup {cs before after : List Char} (h : Groups cs)
    (hcs : cs = before ++ ',' :: after) : BeginsWithGroup 3 after := by
  induction h generalizing before with
  | nil => exact absurd hcs.symm (by simp)
  | cons hlength hdigits hrest ih =>
    cases before with
    | nil => exact ⟨_, _, (List.cons.inj hcs).2.symm, hlength, hdigits, hrest.head⟩
    | cons c before =>
      obtain ⟨later, hlater⟩ := exists_eq_append_comma hdigits (List.cons.inj hcs).2
      exact ih hlater

/-- The digits that do not fill a group come first, then there are groups only. -/
theorem exists_groupedAfter_eq {cs : List Char} (h : ∀ c ∈ cs, c.isDigit = true) :
    ∃ rest, groupedAfter cs = cs.take (cs.length % 3) ++ rest ∧ Groups rest := by
  induction cs with
  | nil => exact ⟨[], rfl, .nil⟩
  | cons c cs ih =>
    obtain ⟨hc, hcs⟩ := List.forall_mem_cons.1 h
    obtain ⟨rest, hrest, hgroups⟩ := ih hcs
    rw [groupedAfter, hrest, List.length_cons]
    split
    · next hfull =>
      -- Two digits have been waiting for this one.
      refine ⟨',' :: (c :: cs.take (cs.length % 3) ++ rest), by rw [hfull]; rfl,
        .cons ?_ ?_ hgroups⟩
      · rw [List.length_cons, List.length_take]
        omega
      · exact List.forall_mem_cons.2 ⟨hc, fun d hd => hcs d (List.mem_of_mem_take hd)⟩
    · next hmore =>
      have hsize : (cs.length + 1) % 3 = cs.length % 3 + 1 := by omega
      exact ⟨rest, by rw [hsize]; rfl, hgroups⟩

/-- A grouped numeral is one to three digits, and groups behind them. -/
theorem exists_grouped_eq (n : Nat) :
    ∃ first rest, grouped n = first ++ rest ∧ 1 ≤ first.length ∧ first.length ≤ 3 ∧
      (∀ c ∈ first, c.isDigit = true) ∧ Groups rest := by
  obtain ⟨c, cs, hcs, heq⟩ := exists_grouped_cons n
  have hdigits : ∀ d ∈ c :: cs, d.isDigit = true := hcs ▸ digits_isDigit n
  obtain ⟨hc, htail⟩ := List.forall_mem_cons.1 hdigits
  obtain ⟨rest, hrest, hgroups⟩ := exists_groupedAfter_eq htail
  refine ⟨c :: cs.take (cs.length % 3), rest, ?_, ?_, ?_, ?_, hgroups⟩
  · rw [heq, hrest, List.cons_append]
  · exact Nat.succ_pos _
  · rw [List.length_cons, List.length_take]
    omega
  · exact List.forall_mem_cons.2 ⟨hc, fun d hd => htail d (List.mem_of_mem_take hd)⟩

theorem grouped_beginsWithGroup (n : Nat) :
    ∃ size, 1 ≤ size ∧ size ≤ 3 ∧ BeginsWithGroup size (grouped n) := by
  obtain ⟨first, rest, heq, hpos, hle, hdigits, hgroups⟩ := exists_grouped_eq n
  exact ⟨first.length, hpos, hle, first, rest, heq, rfl, hdigits, hgroups.head⟩

theorem beginsWithGroup_of_grouped {n : Nat} {before after : List Char}
    (h : grouped n = before ++ ',' :: after) : BeginsWithGroup 3 after := by
  obtain ⟨first, rest, heq, -, -, hdigits, hgroups⟩ := exists_grouped_eq n
  obtain ⟨later, hlater⟩ := exists_eq_append_comma hdigits (heq.symm.trans h)
  exact hgroups.beginsWithGroup hlater

theorem head_grouped_ne_comma (n : Nat) : (grouped n).head? ≠ some ',' := by
  obtain ⟨c, cs, hcs, heq⟩ := exists_grouped_cons n
  have hc : c.isDigit = true := digits_isDigit n c (hcs ▸ List.mem_cons_self)
  rw [heq, List.head?_cons]
  rintro ⟨⟩
  exact absurd hc (by decide)

theorem getLast_grouped_ne_comma (n : Nat) : (grouped n).getLast? ≠ some ',' := by
  intro hlast
  obtain ⟨before, heq⟩ := List.getLast?_eq_some_iff.1 hlast
  obtain ⟨group, rest, hnil, hlength, -⟩ := beginsWithGroup_of_grouped heq
  rw [(List.append_eq_nil_iff.1 hnil.symm).1] at hlength
  exact absurd hlength (by decide)

/-! ### Lengths -/

theorem length_groupedAfter (cs : List Char) :
    (groupedAfter cs).length = cs.length + cs.length / 3 := by
  induction cs with
  | nil => rfl
  | cons c cs ih =>
    rw [groupedAfter, List.length_cons]
    split
    · rw [List.length_cons, List.length_cons, ih]
      omega
    · rw [List.length_cons, ih]
      omega

/-- There is a comma for every three digits behind the first one. -/
theorem length_grouped (n : Nat) :
    (grouped n).length = (digits n).length + ((digits n).length - 1) / 3 := by
  obtain ⟨c, cs, hcs, heq⟩ := exists_grouped_cons n
  rw [heq, hcs, List.length_cons, List.length_cons, length_groupedAfter, Nat.add_sub_cancel,
    Nat.add_right_comm]

/-- A larger number has no fewer digits. -/
theorem length_digits_mono {m n : Nat} (h : m ≤ n) : (digits m).length ≤ (digits n).length := by
  have hpos : 0 < (digits n).length := List.length_pos_iff.2 (digits_ne_nil n)
  rw [digits_eq_toDigits] at hpos
  rw [digits_eq_toDigits, digits_eq_toDigits]
  have hlt : n < 10 ^ (Nat.toDigits 10 n).length :=
    (Nat.length_toDigits_le_iff (by decide) hpos).1 (Nat.le_refl _)
  exact (Nat.length_toDigits_le_iff (by decide) hpos).2 (Nat.lt_of_le_of_lt h hlt)

theorem length_grouped_mono {m n : Nat} (h : m ≤ n) :
    (grouped m).length ≤ (grouped n).length := by
  have hdigits := length_digits_mono h
  rw [length_grouped, length_grouped]
  omega

/-- **Numerals are grouped by thousands.** Without its commas a grouped numeral is the decimal
    numeral of the number. Behind each comma there are three digits before the next comma or the
    end, and one to three before the first comma, hence no comma at either end. Different
    numbers have different grouped numerals, and that of a larger number is not shorter. -/
theorem numerals_grouped_by_thousands :
    (∀ n, (grouped n).filter (· ≠ ',') = Nat.toDigits 10 n) ∧
    (∀ n before after, grouped n = before ++ ',' :: after → BeginsWithGroup 3 after) ∧
    (∀ n, ∃ size, 1 ≤ size ∧ size ≤ 3 ∧ BeginsWithGroup size (grouped n)) ∧
    (∀ n, (grouped n).head? ≠ some ',' ∧ (grouped n).getLast? ≠ some ',') ∧
    Function.Injective grouped ∧
    ∀ m n, m ≤ n → (grouped m).length ≤ (grouped n).length := by
  refine ⟨fun n => ?_, fun n before after => beginsWithGroup_of_grouped, grouped_beginsWithGroup,
    fun n => ⟨head_grouped_ne_comma n, getLast_grouped_ne_comma n⟩, grouped_injective,
    fun m n => length_grouped_mono⟩
  rw [filter_ne_comma_grouped, digits_eq_toDigits]

/-- The numeral of the largest word has three digits behind its last comma, and is not shorter
    than that of a number of two groups. -/
theorem numerals_grouped_by_thousands_of_words :
    grouped 18446744073709551615 = "18,446,744,073,709,551".toList ++ ',' :: "615".toList ∧
      BeginsWithGroup 3 "615".toList ∧
      (grouped 999999).length ≤ (grouped 18446744073709551615).length := by
  obtain ⟨-, hgroup, -, -, -, hlength⟩ := numerals_grouped_by_thousands
  have heq : grouped 18446744073709551615 =
      "18,446,744,073,709,551".toList ++ ',' :: "615".toList := by
    rw [grouped, digits_eq_toDigits]
    decide
  exact ⟨heq, hgroup _ _ _ heq, hlength _ _ (by decide)⟩

end SyntheticLoad.Text
