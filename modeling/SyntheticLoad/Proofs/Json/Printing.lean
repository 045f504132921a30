import SyntheticLoad.Json.Number
import SyntheticLoad.Json.Printer
import SyntheticLoad.Proofs.Json.Reading
import SyntheticLoad.Proofs.Text.Ascii
import SyntheticLoad.Proofs.Text.Numeral

/-!
# What is printed is a document

The compact text of a document is a text of that document (`document_compact`), so reading it
gives the document back. All that has to be known of the document is that its numbers are
tokens of numbers (`Json.Sound`); those of integers and of floats are, whatever the digits
are that a float is written with (`numberText_integer`, `numberText_magnitudeText`).

Nothing that is printed is a control character (`NoControl.compact`), so the compact text
of a document is one line.
-/

namespace SyntheticLoad.Json

open Decimal Text

/-! ### Numbers -/

theorem digitsText_digits (n : Nat) : DigitsText (digits n) :=
  ⟨digits_ne_nil n, digits_isDigit n⟩

theorem digitsText_padded (width n : Nat) : DigitsText (padded width n) :=
  ⟨padded_ne_nil width n, padded_isDigit width n⟩

theorem wholeText_digits (n : Nat) : WholeText (digits n) := by
  have hall := digits_isDigit n
  rcases digits_eq_zero_or_head n with hzero | ⟨c, cs, hcs, hne⟩
  · exact hzero ▸ .zero
  · rw [hcs] at hall ⊢
    exact .digits (hall c List.mem_cons_self) hne fun d hd => hall d (List.mem_cons_of_mem c hd)

theorem unsignedText_digits (n : Nat) : UnsignedText (digits n) := by
  have h := UnsignedText.mk (wholeText_digits n) .none .none
  rwa [List.append_nil, List.append_nil] at h

theorem numberText_integer (n : Int) : NumberText (integer n) := by
  cases n with
  | ofNat n => exact .positive (unsignedText_digits n)
  | negSucc n => exact .negative (unsignedText_digits (n + 1))

theorem unsignedText_plainText (d : Scaled) : UnsignedText (plainText d) := by
  rw [plainText]
  split
  · next e _ =>
    have hpoint : DecimalsText ['.', '0'] := .point digitsText_zero
    have h := UnsignedText.mk (wholeText_digits (d.digits * Nat.pow 10 e)) hpoint .none
    rwa [List.append_nil] at h
  · next e _ =>
    have hpoint : DecimalsText ('.' :: padded (e + 1) (d.digits % Nat.pow 10 (e + 1))) :=
      .point (digitsText_padded _ _)
    have h := UnsignedText.mk (wholeText_digits (d.digits / Nat.pow 10 (e + 1))) hpoint .none
    rwa [List.append_nil] at h

/-- A digit other than a leading zero of a numeral is a whole part on its own. -/
theorem wholeText_head {c : Char} {cs : List Char} (h : WholeText (c :: cs)) : WholeText [c] := by
  cases h with
  | zero => exact .zero
  | digits hc hne _ => exact .digits hc hne fun _ hd => absurd hd List.not_mem_nil

theorem unsignedText_scientificText (d : Scaled) (exponent : Int) :
    UnsignedText (scientificText d exponent) := by
  have hsign : PowerSign [if exponent < 0 then '-' else '+'] := by
    split
    · exact .minus
    · exact .plus
  have hpower := ExponentText.power (.inl rfl) hsign (digitsText_digits exponent.natAbs)
  have hwhole := wholeText_digits d.digits
  have hall := digits_isDigit d.digits
  rw [scientificText]
  split
  · next hnil => exact absurd hnil (digits_ne_nil d.digits)
  -- The point stands behind the first digit, if there are others.
  · next c hc =>
    rw [hc] at hwhole
    exact UnsignedText.mk hwhole .none hpower
  · next c cs hne hcs =>
    rw [hcs] at hwhole hall
    have hpoint : DecimalsText ('.' :: cs) :=
      .point ⟨hne, fun d hd => hall d (List.mem_cons_of_mem c hd)⟩
    have h := UnsignedText.mk (wholeText_head hwhole) hpoint hpower
    simpa using h

/-- Whatever digits a float has, what is written is a number. -/
theorem unsignedText_magnitudeText (b : Binary) : UnsignedText (magnitudeText b) := by
  rw [magnitudeText]
  split
  · exact UnsignedText.mk .zero (.point digitsText_zero) .none
  · rw [decimalText]
    split
    · exact unsignedText_plainText _
    · exact unsignedText_scientificText _ _

section

variable {P : Char → Prop} (hdigit : ∀ c : Char, c.isDigit = true → P c)
  (hmark : ∀ c ∈ ['.', '-', '+', 'e', 'E'], P c)

include hdigit hmark

/-- What holds of digits and of the marks of a number holds of all its characters. -/
theorem UnsignedText.forall_mem {cs : List Char} (h : UnsignedText cs) : ∀ c ∈ cs, P c := by
  have hdigits : ∀ {ds}, DigitsText ds → ∀ c ∈ ds, P c := fun hds c hc => hdigit c (hds.2 c hc)
  obtain ⟨hwhole, hdecimals, hexponent⟩ := h
  refine List.forall_mem_append.2 ⟨List.forall_mem_append.2 ⟨hdigits hwhole.digitsText, ?_⟩, ?_⟩
  · cases hdecimals with
    | none => exact List.forall_mem_nil _
    | point hds => exact List.forall_mem_cons.2 ⟨hmark _ (by decide), hdigits hds⟩
  · cases hexponent with
    | none => exact List.forall_mem_nil _
    | @power e sign ds he hsign hds =>
      have hletter : P e := by rcases he with rfl | rfl <;> exact hmark _ (by decide)
      have hpower : ∀ c ∈ sign, P c := by
        cases hsign with
        | none => exact List.forall_mem_nil _
        | plus => exact List.forall_mem_singleton.2 (hmark _ (by decide))
        | minus => exact List.forall_mem_singleton.2 (hmark _ (by decide))
      exact List.forall_mem_cons.2 ⟨hletter, List.forall_mem_append.2 ⟨hpower, hdigits hds⟩⟩

theorem NumberText.forall_mem {cs : List Char} (h : NumberText cs) : ∀ c ∈ cs, P c := by
  cases h with
  | positive h => exact h.forall_mem hdigit hmark
  | negative h =>
    exact List.forall_mem_cons.2 ⟨hmark _ (by decide), h.forall_mem hdigit hmark⟩

end

/-! ### Strings -/

/-- What a character is written as stands for it. -/
theorem charText_escapeChar (c : Char) : CharText c (escapeChar c) := by
  rw [escapeChar]
  split
  · next h =>
    subst h
    exact .letter rfl
  split
  · next h =>
    subst h
    exact .letter rfl
  split
  · next hquote hslash h => exact .plain h hquote hslash
  split
  · next h =>
    subst h
    exact .letter rfl
  split
  · next h =>
    subst h
    exact .letter rfl
  split
  · next h =>
    subst h
    exact .letter rfl
  split
  · next h =>
    obtain rfl : c = '\x08' := Char.toNat_inj.1 h
    exact .letter rfl
  split
  · next h =>
    obtain rfl : c = '\x0c' := Char.toNat_inj.1 h
    exact .letter rfl
  · next hlt _ _ _ _ _ =>
    -- The digits of the escape are those of the number of the character.
    have hhex : ∀ n < 32, hexQuad? '0' '0' (hexDigit (n / 16)) (hexDigit (n % 16)) = some n := by
      decide
    have hc := hhex c.toNat (Nat.not_le.1 hlt)
    have hsurrogate : ∀ n < 32, isHighSurrogate n = false ∧ isLowSurrogate n = false := by decide
    obtain ⟨hhigh, hlow⟩ := hsurrogate c.toNat (Nat.not_le.1 hlt)
    have h := CharText.unit hc hhigh hlow
    rwa [Char.ofNat_toNat] at h

theorem stringText_escape (cs : List Char) : StringText cs (cs.flatMap escapeChar) := by
  induction cs with
  | nil => exact .nil
  | cons c cs ih =>
    rw [List.flatMap_cons]
    exact .cons (charText_escapeChar c) ih

/-! ### Documents -/

/-- What a document is made of, at every depth. -/
inductive Part : Json → Json → Prop
  | self (j : Json) : Part j j
  | item {items : List Json} {j k : Json} : j ∈ items → Part j k → Part (.array items) k
  | member {members : List (String × Json)} {m : String × Json} {k : Json} :
    m ∈ members → Part m.2 k → Part (.object members) k

/-- All numbers of a document are tokens of numbers. -/
def Sound (j : Json) : Prop := ∀ token, Part j (.number token) → NumberText token.toList

theorem Sound.item {items : List Json} (h : Sound (.array items)) : ∀ j ∈ items, Sound j :=
  fun _ hj token hpart => h token (.item hj hpart)

theorem Sound.member {members : List (String × Json)} (h : Sound (.object members)) :
    ∀ m ∈ members, Sound m.2 :=
  fun _ hm token hpart => h token (.member hm hpart)

theorem sound_text (s : String) : Sound (.text s) := fun _ hpart => by cases hpart

theorem sound_number {token : String} (h : NumberText token.toList) : Sound (.number token) := by
  intro _ hpart
  cases hpart
  exact h

theorem sound_ofNat (n : Nat) : Sound (ofNat n) := by
  refine sound_number ?_
  rw [String.toList_ofList]
  exact .positive (unsignedText_digits n)

theorem sound_object {members : List (String × Json)} (h : ∀ m ∈ members, Sound m.2) :
    Sound (.object members) := by
  intro token hpart
  cases hpart with
  | member hm hpart => exact h _ hm token hpart

theorem blanks_nil : Blanks [] := fun _ hc => absurd hc List.not_mem_nil

theorem ValueText.document {j : Json} {v : List Char} (h : ValueText j v) : Document j v := by
  have hdoc := Document.mk blanks_nil h blanks_nil
  rwa [List.nil_append, List.append_nil] at hdoc

/-- A literal with a colon and a value behind it is a member. -/
theorem memberText_literal (key : String) {j : Json} {v : List Char} (h : ValueText j v) :
    MemberText (key, j) (literal key.toList ++ ':' :: v) := by
  have hm := MemberText.mk blanks_nil (stringText_escape key.toList) blanks_nil h.document
  rw [String.ofList_toList] at hm
  simpa [literal] using hm

mutual

theorem valueText_compact : ∀ j : Json, Sound j → ValueText j j.compact
  | .null, _ => by
    rw [compact]
    exact .null
  | .bool true, _ => by
    rw [compact]
    exact .yes
  | .bool false, _ => by
    rw [compact]
    exact .no
  | .number token, h => by
    have hv := ValueText.number (h token (.self _))
    rwa [String.ofList_toList] at hv
  | .text s, _ => by
    have hv := ValueText.text (stringText_escape s.toList)
    rwa [String.ofList_toList] at hv
  | .array [], _ => by
    rw [compact, compactItems]
    exact .emptyArray blanks_nil
  | .array (j :: js), h => by
    rw [compact]
    exact .array (itemsText_compact (j :: js) h.item (List.cons_ne_nil j js))
  | .object [], _ => by
    rw [compact, compactMembers]
    exact .emptyObject blanks_nil
  | .object (m :: ms), h => by
    rw [compact]
    exact .object (membersText_compact (m :: ms) h.member (List.cons_ne_nil m ms))

theorem itemsText_compact : ∀ items : List Json, (∀ j ∈ items, Sound j) → items ≠ [] →
    ItemsText items (compactItems items)
  | [j], h, _ => by
    rw [compactItems, compactMoreItems, List.append_nil]
    exact .last (valueText_compact j (h j List.mem_cons_self)).document
  | j :: k :: items, h, _ => by
    have hmore := itemsText_compact (k :: items) (fun k hk => h k (List.mem_cons_of_mem j hk))
      (List.cons_ne_nil k items)
    rw [compactItems] at hmore ⊢
    rw [compactMoreItems]
    exact .more (valueText_compact j (h j List.mem_cons_self)).document hmore

theorem membersText_compact : ∀ members : List (String × Json), (∀ m ∈ members, Sound m.2) →
    members ≠ [] → MembersText members (compactMembers members)
  | [(key, j)], h, _ => by
    rw [compactMembers, compactMoreMembers, List.append_nil]
    exact .last (memberText_literal key (valueText_compact j (h _ List.mem_cons_self)))
  | (key, j) :: (key', k) :: members, h, _ => by
    have hm := memberText_literal key (valueText_compact j (h _ List.mem_cons_self))
    have hmore := membersText_compact ((key', k) :: members)
      (fun m hm => h m (List.mem_cons_of_mem _ hm)) (List.cons_ne_nil _ members)
    rw [compactMembers] at hmore ⊢
    rw [compactMoreMembers]
    simpa using MembersText.more hm hmore

end

/-- The compact text of a document is a text of it. -/
theorem document_compact {j : Json} (h : Sound j) : Document j j.compact :=
  (valueText_compact j h).document

/-! ### No control characters -/

/-- There are no control characters in a text. -/
def NoControl (cs : List Char) : Prop := ∀ c ∈ cs, 0x20 ≤ c.toNat

instance (cs : List Char) : Decidable (NoControl cs) :=
  List.decidableBAll (fun c : Char => 0x20 ≤ c.toNat) cs

namespace NoControl

variable {cs ds : List Char}

theorem append (h : NoControl cs) (h' : NoControl ds) : NoControl (cs ++ ds) :=
  fun c hc => (List.mem_append.1 hc).elim (h c) (h' c)

theorem cons {c : Char} (hc : 0x20 ≤ c.toNat) (h : NoControl cs) : NoControl (c :: cs) :=
  List.forall_mem_cons.2 ⟨hc, h⟩

theorem nil : NoControl [] := fun _ hc => absurd hc List.not_mem_nil

/-- Without control characters, a text is one line. -/
theorem one_line (h : NoControl cs) : '\n' ∉ cs := fun hmem => absurd (h _ hmem) (by decide)

theorem of_number (h : NumberText cs) : NoControl cs :=
  h.forall_mem (fun c hc => Nat.le_trans (by decide) (Char.isDigit_iff_toNat.1 hc).1) (by simp)

/-- Control characters are escaped, and escapes have none. -/
theorem escapeChar (c : Char) : NoControl (escapeChar c) := by
  rcases Nat.lt_or_ge c.toNat 0x20 with hlt | hge
  -- There are so few control characters that their escapes can be looked at.
  · exact of_toNat_lt (P := fun c => NoControl (Json.escapeChar c)) (by decide) hlt
  · rw [Json.escapeChar]
    split
    · exact cons (by decide) (cons (by decide) nil)
    split
    · exact cons (by decide) (cons (by decide) nil)
    · exact cons hge nil

theorem literal (cs : List Char) : NoControl (literal cs) := by
  refine cons (by decide) (append (fun c hc => ?_) (cons (by decide) nil))
  obtain ⟨d, -, hd⟩ := List.mem_flatMap.1 hc
  exact escapeChar d c hd

mutual

theorem compact : ∀ j : Json, Sound j → NoControl j.compact
  | .null, _ => by
    rw [Json.compact]
    decide
  | .bool true, _ => by
    rw [Json.compact]
    decide
  | .bool false, _ => by
    rw [Json.compact]
    decide
  | .number token, h => by
    rw [Json.compact]
    exact of_number (h token (.self _))
  | .text s, _ => by
    rw [Json.compact]
    exact literal s.toList
  | .array items, h => by
    rw [Json.compact]
    exact cons (by decide) ((compactItems items h.item).append (cons (by decide) nil))
  | .object members, h => by
    rw [Json.compact]
    exact cons (by decide) ((compactMembers members h.member).append (cons (by decide) nil))

theorem compactItems : ∀ items : List Json, (∀ j ∈ items, Sound j) → NoControl (compactItems items)
  | [], _ => by
    rw [Json.compactItems]
    exact nil
  | j :: items, h => by
    rw [Json.compactItems]
    exact (compact j (h j List.mem_cons_self)).append
      (compactMoreItems items fun k hk => h k (List.mem_cons_of_mem j hk))

theorem compactMoreItems : ∀ items : List Json, (∀ j ∈ items, Sound j) →
    NoControl (compactMoreItems items)
  | [], _ => by
    rw [Json.compactMoreItems]
    exact nil
  | j :: items, h => by
    rw [Json.compactMoreItems]
    exact cons (by decide) ((compact j (h j List.mem_cons_self)).append
      (compactMoreItems items fun k hk => h k (List.mem_cons_of_mem j hk)))

theorem compactMembers : ∀ members : List (String × Json), (∀ m ∈ members, Sound m.2) →
    NoControl (compactMembers members)
  | [], _ => by
    rw [Json.compactMembers]
    exact nil
  | (key, j) :: members, h => by
    rw [Json.compactMembers]
    exact (literal key.toList).append (cons (by decide) ((compact j (h _ List.mem_cons_self)).append
      (compactMoreMembers members fun m hm => h m (List.mem_cons_of_mem _ hm))))

theorem compactMoreMembers : ∀ members : List (String × Json), (∀ m ∈ members, Sound m.2) →
    NoControl (compactMoreMembers members)
  | [], _ => by
    rw [Json.compactMoreMembers]
    exact nil
  | (key, j) :: members, h => by
    rw [Json.compactMoreMembers]
    exact cons (by decide) ((literal key.toList).append (cons (by decide)
      ((compact j (h _ List.mem_cons_self)).append
        (compactMoreMembers members fun m hm => h m (List.mem_cons_of_mem _ hm)))))

end

end NoControl

end SyntheticLoad.Json
