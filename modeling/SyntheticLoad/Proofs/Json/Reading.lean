import SyntheticLoad.Proofs.Json.Grammar

/-!
# The reader finds every document

Whatever the grammar says is a text of a document, the reader reads as that document
(`Document.parse_eq`), however its characters are escaped and wherever there are blanks.
As the reader is a function, a text has at most one document (`Document.unique`).

A token is read up to its end, and what comes next must not look like more of it. Behind a
number, that is anything but a digit, a point or an `e` (`EndsNumber`); behind a value there
is nothing, or a bracket, a brace or a comma after some blanks (`Closes`). The reader
is given two steps for each character, and one more for a list of items or members.
-/

namespace SyntheticLoad.Json

/-! ### Blanks -/

theorem isSpace_iff {c : Char} :
    isSpace c = true ↔ c = ' ' ∨ c = '\t' ∨ c = '\n' ∨ c = '\r' := by
  simp only [isSpace, Bool.or_eq_true, decide_eq_true_eq]
  grind

theorem skipSpace_blanks {b : List Char} (h : Blanks b) (cs : List Char) :
    skipSpace (b ++ cs) = skipSpace cs :=
  List.dropWhile_append_of_pos fun c hc => isSpace_iff.2 (h c hc)

theorem skipSpace_cons {c : Char} (h : isSpace c = false) (cs : List Char) :
    skipSpace (c :: cs) = c :: cs :=
  List.dropWhile_cons_of_neg (by simp [h])

theorem skipSpace_skipSpace (cs : List Char) : skipSpace (skipSpace cs) = skipSpace cs := by
  induction cs with
  | nil => rfl
  | cons c cs ih =>
    cases h : isSpace c with
    | false => rw [skipSpace_cons h, skipSpace_cons h]
    | true =>
      have hstep : skipSpace (c :: cs) = skipSpace cs := List.dropWhile_cons_of_pos h
      rw [hstep, ih]

/-- Nothing, or the end of an array or of an object, or the separator before the next part. -/
def Closes (rest : List Char) : Prop := ∀ c ∈ rest.head?, c = ',' ∨ c = ']' ∨ c = '\x7d'

/-! ### Numbers -/

/-- No number goes on here. -/
def EndsNumber (rest : List Char) : Prop :=
  ∀ c ∈ rest.head?, c.isDigit = false ∧ c ≠ '.' ∧ c ≠ 'e' ∧ c ≠ 'E'

theorem Closes.endsNumber {b rest : List Char} (hb : Blanks b) (h : Closes rest) :
    EndsNumber (b ++ rest) := by
  intro c hc
  cases b with
  | nil => rcases h c hc with rfl | rfl | rfl <;> decide
  | cons d ds =>
    obtain rfl : d = c := Option.some.inj hc
    rcases hb d List.mem_cons_self with rfl | rfl | rfl | rfl <;> decide

theorem EndsNumber.noDigit {rest : List Char} (h : EndsNumber rest) :
    ∀ c ∈ rest.head?, c.isDigit = false := fun c hc => (h c hc).1

/-- The digits at the start of a text are read up to what is no digit. -/
theorem readDigits_append {ds rest : List Char} (h : DigitsText ds)
    (hrest : ∀ c ∈ rest.head?, c.isDigit = false) : readDigits (ds ++ rest) = some (ds, rest) := by
  have htake : rest.takeWhile Char.isDigit = [] := by
    cases rest with
    | nil => rfl
    | cons c cs => exact List.takeWhile_cons_of_neg (by simp [hrest c rfl])
  have hdrop : rest.dropWhile Char.isDigit = rest := by
    cases rest with
    | nil => rfl
    | cons c cs => exact List.dropWhile_cons_of_neg (by simp [hrest c rfl])
  obtain ⟨c, cs, rfl⟩ := List.exists_cons_of_ne_nil h.1
  rw [readDigits, List.takeWhile_append_of_pos h.2, List.dropWhile_append_of_pos h.2, htake, hdrop,
    List.append_nil]

theorem DigitsText.head {ds : List Char} (h : DigitsText ds) (rest : List Char) :
    ∃ c cs, ds ++ rest = c :: cs ∧ c.isDigit := by
  obtain ⟨hne, hall⟩ := h
  obtain ⟨c, cs, rfl⟩ := List.exists_cons_of_ne_nil hne
  exact ⟨c, cs ++ rest, rfl, hall c List.mem_cons_self⟩

theorem digitsText_zero : DigitsText ['0'] :=
  ⟨List.cons_ne_nil _ _, List.forall_mem_singleton.2 (by decide)⟩

theorem WholeText.digitsText {cs : List Char} (h : WholeText cs) : DigitsText cs := by
  cases h with
  | zero => exact digitsText_zero
  | digits hc _ hcs => exact ⟨List.cons_ne_nil _ _, List.forall_mem_cons.2 ⟨hc, hcs⟩⟩

theorem readWhole_append {whole rest : List Char} (h : WholeText whole)
    (hrest : ∀ c ∈ rest.head?, c.isDigit = false) :
    readWhole (whole ++ rest) = some (whole, rest) := by
  rw [readWhole, readDigits_append h.digitsText hrest]
  simp only [Option.bind_eq_bind, Option.bind_some]
  refine if_neg fun ⟨hlen, hhead⟩ => ?_
  cases h with
  | zero => exact absurd hlen (by decide)
  | digits _ hne _ => exact hne (Option.some.inj hhead)

theorem readDecimals_append {decimals rest : List Char} (h : DecimalsText decimals)
    (hdigit : ∀ c ∈ rest.head?, c.isDigit = false) (hpoint : ∀ c ∈ rest.head?, c ≠ '.') :
    readDecimals (decimals ++ rest) = some (decimals, rest) := by
  cases h with
  | none =>
    rw [List.nil_append, readDecimals.eq_def]
    split
    · exact absurd rfl (hpoint '.' rfl)
    · rfl
  | point hds =>
    rw [List.cons_append, readDecimals, readDigits_append hds hdigit]
    rfl

theorem readSigned_append {sign ds rest : List Char} (hsign : PowerSign sign) (hds : DigitsText ds)
    (hrest : ∀ c ∈ rest.head?, c.isDigit = false) :
    readSigned (sign ++ ds ++ rest) = some (sign ++ ds, rest) := by
  cases hsign with
  | none =>
    obtain ⟨c, cs, hcs, hc⟩ := hds.head rest
    rw [List.nil_append, readSigned.eq_def]
    split
    · next heq => cases heq.symm.trans hcs; exact absurd hc (by decide)
    · next heq => cases heq.symm.trans hcs; exact absurd hc (by decide)
    · exact readDigits_append hds hrest
  | plus =>
    rw [List.singleton_append, List.cons_append, readSigned, readDigits_append hds hrest]
    rfl
  | minus =>
    rw [List.singleton_append, List.cons_append, readSigned, readDigits_append hds hrest]
    rfl

theorem readExponent_append {exponent rest : List Char} (h : ExponentText exponent)
    (hrest : EndsNumber rest) : readExponent (exponent ++ rest) = some (exponent, rest) := by
  cases h with
  | none =>
    rw [List.nil_append, readExponent.eq_def]
    split
    · exact absurd rfl (hrest 'e' rfl).2.2.1
    · exact absurd rfl (hrest 'E' rfl).2.2.2
    · rfl
  | power he hsign hds =>
    rw [List.cons_append]
    rcases he with rfl | rfl
    · rw [readExponent, readSigned_append hsign hds hrest.noDigit]
      rfl
    · rw [readExponent, readSigned_append hsign hds hrest.noDigit]
      rfl

/-- Neither decimals nor an exponent begin with a digit. -/
theorem ExponentText.head {exponent rest : List Char} (h : ExponentText exponent)
    (hrest : EndsNumber rest) :
    ∀ c ∈ (exponent ++ rest).head?, c.isDigit = false ∧ c ≠ '.' := by
  intro c hc
  cases h with
  | none => exact ⟨(hrest c hc).1, (hrest c hc).2.1⟩
  | power he _ _ =>
    obtain rfl := Option.some.inj hc
    rcases he with rfl | rfl <;> decide

theorem DecimalsText.head {decimals rest : List Char} (h : DecimalsText decimals)
    (hrest : ∀ c ∈ rest.head?, c.isDigit = false) :
    ∀ c ∈ (decimals ++ rest).head?, c.isDigit = false := by
  intro c hc
  cases h with
  | none => exact hrest c hc
  | point _ =>
    obtain rfl := Option.some.inj hc
    rfl

theorem readUnsigned_append {token rest : List Char} (h : UnsignedText token)
    (hrest : EndsNumber rest) : readUnsigned (token ++ rest) = some (token, rest) := by
  obtain ⟨hwhole, hdecimals, hexponent⟩ := h
  have hpoint := fun c hc => (hexponent.head hrest c hc).2
  have hdigit := fun c hc => (hexponent.head hrest c hc).1
  rw [readUnsigned, List.append_assoc, List.append_assoc,
    readWhole_append hwhole (hdecimals.head hdigit)]
  simp only [Option.bind_eq_bind, Option.bind_some]
  rw [readDecimals_append hdecimals hdigit hpoint]
  simp only [Option.bind_some]
  rw [readExponent_append hexponent hrest]
  rfl

theorem UnsignedText.head {token : List Char} (h : UnsignedText token) :
    ∃ c cs, token = c :: cs ∧ c.isDigit := by
  obtain ⟨hwhole, -, -⟩ := h
  rw [List.append_assoc]
  exact hwhole.digitsText.head _

theorem NumberText.head {token : List Char} (h : NumberText token) :
    ∃ c cs, token = c :: cs ∧ (c = '-' ∨ c.isDigit) := by
  cases h with
  | positive h =>
    obtain ⟨c, cs, rfl, hc⟩ := h.head
    exact ⟨c, cs, rfl, .inr hc⟩
  | negative h => exact ⟨'-', _, rfl, .inl rfl⟩

theorem readNumber_append {token rest : List Char} (h : NumberText token)
    (hrest : EndsNumber rest) : readNumber (token ++ rest) = some (token, rest) := by
  cases h with
  | positive h =>
    obtain ⟨c, cs, rfl, hc⟩ := h.head
    rw [readNumber.eq_def]
    split
    · next heq =>
      rw [List.cons_append, List.cons.injEq] at heq
      exact absurd (heq.1 ▸ hc) (by decide)
    · exact readUnsigned_append h hrest
  | negative h =>
    rw [List.cons_append, readNumber, readUnsigned_append h hrest]
    rfl

/-! ### Strings -/

/-- A character is read off its text. -/
theorem readLiteral_char {c : Char} {w : List Char} (h : CharText c w) (rest : List Char) :
    readLiteral .keeping (w ++ rest) = consRead c (readLiteral .keeping rest) := by
  cases h with
  | plain hc hquote hslash =>
    -- It is neither the end of the text nor the start of an escape.
    rw [List.singleton_append, readLiteral]
    · exact if_neg fun hor => hor.elim (fun hlt => by omega) hslash
    · exact hquote
    · exact fun _ _ _ _ _ heq _ => hslash heq
    · exact fun _ _ heq _ => hslash heq
  | @letter e c he =>
    have hu : e ≠ 'u' := by
      rintro rfl
      cases he
    rw [List.cons_append, List.singleton_append, readLiteral]
    · rw [he]
    · exact fun _ _ _ _ _ heq _ => hu heq
  | unit hn hhigh hlow =>
    simp [readLiteral, hn, hhigh, hlow]
  | @pair _ _ _ _ _ _ _ _ n _ hn hhigh hm hlow =>
    -- The first half of a pair is no second half.
    have hnot : isLowSurrogate n = false := by
      simp only [isHighSurrogate, isLowSurrogate, Bool.and_eq_true, decide_eq_true_eq,
        Bool.and_eq_false_iff, decide_eq_false_iff_not] at hhigh ⊢
      omega
    simp [readLiteral, hn, hhigh, hnot, hm, hlow]

/-- A string is read off its text, up to the closing quote. -/
theorem readLiteral_append {cs body : List Char} (h : StringText cs body) (rest : List Char) :
    readLiteral .keeping (body ++ '"' :: rest) = some (cs, rest) := by
  induction h with
  | nil => simp [readLiteral]
  | cons hc _ ih =>
    rw [List.append_assoc, readLiteral_char hc, ih]
    rfl

/-! ### Documents -/

theorem readValue_skipSpace (fuel : Nat) (cs : List Char) :
    readValue .keeping fuel (skipSpace cs) = readValue .keeping fuel cs := by
  cases fuel with
  | zero => rw [readValue, readValue]
  | succ fuel => rw [readValue, readValue, skipSpace_skipSpace]

theorem readItems_skipSpace (fuel : Nat) (cs : List Char) :
    readItems .keeping fuel (skipSpace cs) = readItems .keeping fuel cs := by
  cases fuel with
  | zero => rw [readItems, readItems]
  | succ fuel => rw [readItems, readItems, readValue_skipSpace]

theorem readMembers_skipSpace (fuel : Nat) (cs : List Char) :
    readMembers .keeping fuel (skipSpace cs) = readMembers .keeping fuel cs := by
  cases fuel with
  | zero => rw [readMembers, readMembers]
  | succ fuel => rw [readMembers, readMembers, skipSpace_skipSpace]

/-- A value begins with neither a blank nor a closing bracket. -/
theorem ValueText.head {j : Json} {v : List Char} (h : ValueText j v) :
    ∃ c cs, v = c :: cs ∧ isSpace c = false ∧ c ≠ ']' := by
  cases h with
  | number h =>
    obtain ⟨c, cs, rfl, hc⟩ := h.head
    refine ⟨c, cs, rfl, ?_, ?_⟩
    · rw [Bool.eq_false_iff, Ne, isSpace_iff]
      rintro (rfl | rfl | rfl | rfl) <;> revert hc <;> decide
    · rintro rfl
      revert hc
      decide
  | _ => exact ⟨_, _, rfl, by decide, by decide⟩

/-- A number begins like nothing else. -/
theorem NumberText.not_word {c : Char} {cs : List Char} (h : NumberText (c :: cs)) :
    c ∉ ['n', 't', 'f', '"', '[', '\x7b'] := by
  obtain ⟨c', cs', heq, hc⟩ := h.head
  cases heq
  intro hmem
  simp only [List.mem_cons, List.not_mem_nil, or_false] at hmem
  rcases hmem with rfl | rfl | rfl | rfl | rfl | rfl <;> revert hc <;> decide

theorem readValue_number {token rest : List Char} (h : NumberText token) (hrest : EndsNumber rest)
    (fuel : Nat) : readValue .keeping (fuel + 1) (token ++ rest) =
      some (.number (String.ofList token), rest) := by
  obtain ⟨c, cs, rfl, hspace, -⟩ := (ValueText.number h).head
  have hread := readNumber_append h hrest
  have hnot := h.not_word
  rw [List.cons_append] at hread ⊢
  rw [readValue, skipSpace_cons hspace]
  split
  case h_7 => rw [hread, Option.map_some]
  -- All other values begin with a character of their own.
  all_goals
    next heq => exact absurd ((List.cons.inj heq).1 ▸ hnot) (by decide)

/-- Blanks in front of a value are passed over. -/
theorem ValueText.skipSpace_append {j : Json} {v : List Char} (h : ValueText j v) {b : List Char}
    (hb : Blanks b) (rest : List Char) : skipSpace (b ++ v ++ rest) = v ++ rest := by
  obtain ⟨c, cs, rfl, hspace, -⟩ := h.head
  rw [List.append_assoc, skipSpace_blanks hb, List.cons_append, skipSpace_cons hspace]

/-- An array with items does not begin with its closing bracket. -/
theorem ItemsText.head {js : List Json} {ws : List Char} (h : ItemsText js ws) (rest : List Char) :
    ∃ c cs, skipSpace (ws ++ rest) = c :: cs ∧ c ≠ ']' := by
  have hdoc : ∀ {j w}, Document j w → ∀ rest,
      ∃ c cs, skipSpace (w ++ rest) = c :: cs ∧ c ≠ ']' := by
    rintro j _ ⟨hb, hv, -⟩ rest
    obtain ⟨c, cs, rfl, -, hne⟩ := hv.head
    rw [List.append_assoc, hv.skipSpace_append hb]
    exact ⟨c, _, rfl, hne⟩
  cases h with
  | last h => exact hdoc h rest
  | more h _ =>
    rw [List.append_assoc]
    exact hdoc h _

theorem MemberText.skipSpace_append {m : String × Json} {w : List Char} (h : MemberText m w)
    (rest : List Char) : ∃ cs, skipSpace (w ++ rest) = '"' :: cs := by
  obtain ⟨hb, -, -, -⟩ := h
  rw [List.append_assoc, skipSpace_blanks hb, List.cons_append, skipSpace_cons (by rfl)]
  exact ⟨_, rfl⟩

theorem MembersText.head {ms : List (String × Json)} {ws : List Char} (h : MembersText ms ws)
    (rest : List Char) : ∃ c cs, skipSpace (ws ++ rest) = c :: cs ∧ c ≠ '\x7d' := by
  cases h with
  | last h =>
    obtain ⟨cs, hcs⟩ := h.skipSpace_append rest
    exact ⟨_, cs, hcs, by decide⟩
  | more h _ =>
    rw [List.append_assoc]
    obtain ⟨cs, hcs⟩ := h.skipSpace_append _
    exact ⟨_, cs, hcs, by decide⟩

/-- An array with items is read by reading its items. -/
theorem readValue_array {body rest : List Char} {js : List Json} (h : ItemsText js body)
    (fuel : Nat) : readValue .keeping (fuel + 1) ('[' :: (body ++ ']' :: rest)) =
      (readItems .keeping fuel (body ++ ']' :: rest)).map fun (js, rest) => (.array js, rest) := by
  obtain ⟨c, cs, hcs, hne⟩ := h.head (']' :: rest)
  rw [readValue, skipSpace_cons (by rfl)]
  simp only
  split
  · next heq => exact absurd (List.cons.inj (hcs.symm.trans heq)).1 hne
  · rw [readItems_skipSpace]

/-- An object with members is read by reading its members. -/
theorem readValue_object {body rest : List Char} {ms : List (String × Json)}
    (h : MembersText ms body) (fuel : Nat) :
    readValue .keeping (fuel + 1) ('\x7b' :: (body ++ '\x7d' :: rest)) =
      (readMembers .keeping fuel (body ++ '\x7d' :: rest)).map
        fun (ms, rest) => (.object ms, rest) := by
  obtain ⟨c, cs, hcs, hne⟩ := h.head ('\x7d' :: rest)
  rw [readValue, skipSpace_cons (by rfl)]
  simp only
  split
  · next heq => exact absurd (List.cons.inj (hcs.symm.trans heq)).1 hne
  · rw [readMembers_skipSpace]

theorem closes_comma (cs : List Char) : Closes (',' :: cs) :=
  fun _ hc => .inl (Option.some.inj hc).symm

theorem closes_bracket (cs : List Char) : Closes (']' :: cs) :=
  fun _ hc => .inr (.inl (Option.some.inj hc).symm)

theorem closes_brace (cs : List Char) : Closes ('\x7d' :: cs) :=
  fun _ hc => .inr (.inr (Option.some.inj hc).symm)

section

variable {j : Json} {fuel : Nat} {b rest : List Char}

/-- The items end behind an item at a bracket. -/
theorem readItems_last {item : List Char} (hb : Blanks b)
    (hread : readValue .keeping fuel item = some (j, b ++ ']' :: rest)) :
    readItems .keeping (fuel + 1) item = some ([j], rest) := by
  rw [readItems, hread]
  simp only
  rw [skipSpace_blanks hb, skipSpace_cons (by rfl)]
  rfl

/-- The items go on behind an item at a comma. -/
theorem readItems_more {item : List Char} (hb : Blanks b)
    (hread : readValue .keeping fuel item = some (j, b ++ ',' :: rest)) :
    readItems .keeping (fuel + 1) item =
      (readItems .keeping fuel rest).map fun (js, rest) => (j :: js, rest) := by
  rw [readItems, hread]
  simp only
  rw [skipSpace_blanks hb, skipSpace_cons (by rfl)]
  rfl

variable {before key body after value : List Char}

/-- The members end behind a member at a brace. -/
theorem readMembers_last (hbefore : Blanks before) (hbody : StringText key body)
    (hafter : Blanks after) (hb : Blanks b)
    (hread : readValue .keeping fuel value = some (j, b ++ '\x7d' :: rest)) :
    readMembers .keeping (fuel + 1) (before ++ '"' :: (body ++ '"' :: (after ++ ':' :: value))) =
      some ([(String.ofList key, j)], rest) := by
  rw [readMembers, skipSpace_blanks hbefore, skipSpace_cons (by rfl)]
  simp only
  rw [readLiteral_append hbody]
  simp only
  rw [skipSpace_blanks hafter, skipSpace_cons (by rfl)]
  simp only
  rw [hread]
  simp only
  rw [skipSpace_blanks hb, skipSpace_cons (by rfl)]
  rfl

/-- The members go on behind a member at a comma. -/
theorem readMembers_more (hbefore : Blanks before) (hbody : StringText key body)
    (hafter : Blanks after) (hb : Blanks b)
    (hread : readValue .keeping fuel value = some (j, b ++ ',' :: rest)) :
    readMembers .keeping (fuel + 1) (before ++ '"' :: (body ++ '"' :: (after ++ ':' :: value))) =
      (readMembers .keeping fuel rest).map
        fun (ms, rest) => ((String.ofList key, j) :: ms, rest) := by
  rw [readMembers, skipSpace_blanks hbefore, skipSpace_cons (by rfl)]
  simp only
  rw [readLiteral_append hbody]
  simp only
  rw [skipSpace_blanks hafter, skipSpace_cons (by rfl)]
  simp only
  rw [hread]
  simp only
  rw [skipSpace_blanks hb, skipSpace_cons (by rfl)]
  rfl

end

-- The steps are counted twice for each character, as a step into an array or an object takes its
-- bracket and the step from there to what is in it takes nothing.
mutual

theorem ValueText.read : ∀ {j : Json} {v : List Char}, ValueText j v → ∀ {rest : List Char},
    EndsNumber rest → ∀ fuel : Nat, 2 * v.length ≤ fuel →
      readValue .keeping fuel (v ++ rest) = some (j, rest)
  | _, _, .null, _, _, fuel + 1, _ => by
    rw [readValue, List.cons_append, skipSpace_cons (by rfl)]
    rfl
  | _, _, .yes, _, _, fuel + 1, _ => by
    rw [readValue, List.cons_append, skipSpace_cons (by rfl)]
    rfl
  | _, _, .no, _, _, fuel + 1, _ => by
    rw [readValue, List.cons_append, skipSpace_cons (by rfl)]
    rfl
  | _, _, .number h, _, hrest, 0, hfuel => by
    obtain ⟨c, cs, rfl, -⟩ := h.head
    simp only [List.length_cons] at hfuel
    omega
  | _, _, .number h, _, hrest, fuel + 1, _ => readValue_number h hrest fuel
  | _, _, .text h, rest, _, fuel + 1, _ => by
    rw [readValue, List.cons_append, skipSpace_cons (by rfl), List.append_assoc,
      List.singleton_append]
    simp only
    rw [readLiteral_append h]
    rfl
  | _, _, .emptyArray hb, rest, _, fuel + 1, _ => by
    rw [readValue, List.cons_append, skipSpace_cons (by rfl), List.append_assoc,
      List.singleton_append]
    simp only
    rw [skipSpace_blanks hb, skipSpace_cons (by rfl)]
    rfl
  | _, _, .emptyObject hb, rest, _, fuel + 1, _ => by
    rw [readValue, List.cons_append, skipSpace_cons (by rfl), List.append_assoc,
      List.singleton_append]
    simp only
    rw [skipSpace_blanks hb, skipSpace_cons (by rfl)]
    rfl
  | _, _, .array h, rest, _, fuel + 1, hfuel => by
    simp only [List.length_cons, List.length_append, List.length_nil] at hfuel
    rw [List.cons_append, List.append_assoc, List.singleton_append, readValue_array h,
      h.read fuel (by omega), Option.map_some]
  | _, _, .object h, rest, _, fuel + 1, hfuel => by
    simp only [List.length_cons, List.length_append, List.length_nil] at hfuel
    rw [List.cons_append, List.append_assoc, List.singleton_append, readValue_object h,
      h.read fuel (by omega), Option.map_some]

theorem Document.read : ∀ {j : Json} {w : List Char}, Document j w → ∀ {rest : List Char},
    Closes rest → ∀ fuel : Nat, 2 * w.length ≤ fuel →
      ∃ b, Blanks b ∧ readValue .keeping fuel (w ++ rest) = some (j, b ++ rest)
  | _, _, .mk hbefore h hafter, rest, hrest, fuel, hfuel => by
    simp only [List.length_append] at hfuel
    -- The blanks behind the value are not read, but they end a number.
    refine ⟨_, hafter, ?_⟩
    rw [← readValue_skipSpace, List.append_assoc, h.skipSpace_append hbefore]
    exact h.read (hrest.endsNumber hafter) fuel (by omega)

theorem ItemsText.read : ∀ {js : List Json} {ws : List Char}, ItemsText js ws →
    ∀ {rest : List Char} (fuel : Nat), 2 * ws.length + 1 ≤ fuel →
      readItems .keeping fuel (ws ++ ']' :: rest) = some (js, rest)
  | _, _, .last h, rest, fuel + 1, hfuel => by
    obtain ⟨b, hb, hread⟩ := h.read (closes_bracket rest) fuel (by omega)
    exact readItems_last hb hread
  | _, _, .more h hs, rest, fuel + 1, hfuel => by
    simp only [List.length_append, List.length_cons] at hfuel
    obtain ⟨b, hb, hread⟩ := h.read (closes_comma _) fuel (by omega)
    rw [List.append_assoc, List.cons_append, readItems_more hb hread, hs.read fuel (by omega),
      Option.map_some]

theorem MembersText.read : ∀ {ms : List (String × Json)} {ws : List Char}, MembersText ms ws →
    ∀ {rest : List Char} (fuel : Nat), 2 * ws.length + 1 ≤ fuel →
      readMembers .keeping fuel (ws ++ '\x7d' :: rest) = some (ms, rest)
  | _, _, .last (.mk hbefore hbody hafter h), rest, fuel + 1, hfuel => by
    simp only [List.length_append, List.length_cons] at hfuel
    obtain ⟨b, hb, hread⟩ := h.read (closes_brace rest) fuel (by omega)
    simp only [List.append_assoc, List.cons_append]
    exact readMembers_last hbefore hbody hafter hb hread
  | _, _, .more (.mk hbefore hbody hafter h) hs, rest, fuel + 1, hfuel => by
    simp only [List.length_append, List.length_cons] at hfuel
    obtain ⟨b, hb, hread⟩ := h.read (closes_comma _) fuel (by omega)
    simp only [List.append_assoc, List.cons_append]
    rw [readMembers_more hbefore hbody hafter hb hread, hs.read fuel (by omega), Option.map_some]

end

/-- The reader finds the document of a text. -/
theorem Document.parse_eq {j : Json} {cs : List Char} (h : Document j cs) : parse cs = some j := by
  have hcloses : Closes [] := fun c hc => by cases hc
  obtain ⟨b, hb, hread⟩ := h.read hcloses (stepsFor cs) (Nat.le_add_right (2 * cs.length) 2)
  rw [List.append_nil, List.append_nil] at hread
  have hend : skipSpace b = [] := by
    have hskip := skipSpace_blanks hb []
    rwa [List.append_nil] at hskip
  rw [parse, hread]
  simp only [Option.bind_eq_bind, Option.bind_some]
  rw [hend]
  rfl

/-- A text has at most one document. -/
theorem Document.unique {j j' : Json} {cs : List Char} (h : Document j cs) (h' : Document j' cs) :
    j = j' :=
  Option.some.inj (h.parse_eq.symm.trans h'.parse_eq)

end SyntheticLoad.Json
