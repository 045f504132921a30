import SyntheticLoad.Proofs.Json.Printing

/-!
# Layout

Where a character of a text stands, inside of a string literal or outside, is found by going
through the text: a quote begins a literal, the next quote ends it, and a backslash inside takes
the character behind it along, be it a quote or not (`Place.next`). So blanks that lay a text
out can be told from blanks in strings, and taken away (`withoutLayout`).

What is left of the pretty text of a document is its compact text, and every character has kept
its place (`laidOut_pretty`). Of the document only its numbers matter, which have to be
tokens of numbers.
-/

namespace SyntheticLoad.Json

/-! ### Places -/

/-- Where a character of a text stands. The quote that begins a literal is outside of it, the
    one that ends it is inside. -/
inductive Place
  | outside
  | inside
  /-- Inside of a literal, behind a backslash that is not escaped itself. -/
  | escaped
  deriving DecidableEq, Repr

/-- The place behind a character. -/
def Place.next : Place → Char → Place
  | .outside, c => if c = '"' then .inside else .outside
  | .inside, c => if c = '"' then .outside else if c = '\\' then .escaped else .inside
  | .escaped, _ => .inside

/-- The place behind a text. -/
def Place.after (p : Place) (cs : List Char) : Place := cs.foldl Place.next p

/-- The characters of a text with their places, where the first one has the given place. -/
def placed : Place → List Char → List (Place × Char)
  | _, [] => []
  | p, c :: cs => (p, c) :: placed (p.next c) cs

/-- Whether a character is a space or a line break outside of literals. -/
def isLayout (x : Place × Char) : Bool := x.1 = .outside && (x.2 = ' ' || x.2 = '\n')

/-- The characters of a text with their places, but for those that only lay it out. -/
def content (cs : List Char) : List (Place × Char) :=
  (placed .outside cs).filter fun x => !isLayout x

/-- Whether a character outside of literals is neither layout nor begins a literal. -/
def isMark (c : Char) : Bool := c ≠ '"' && c ≠ ' ' && c ≠ '\n'

/-- A text without the spaces and line breaks outside of its literals. -/
def withoutLayout (cs : List Char) : List Char := (content cs).map Prod.snd

/-- What stands inside of the literals of a text, each up to its closing quote. -/
def literalText (cs : List Char) : List Char :=
  ((placed .outside cs).filter fun x => x.1 ≠ .outside).map Prod.snd

theorem after_append (p : Place) (cs ds : List Char) : p.after (cs ++ ds) = (p.after cs).after ds :=
  List.foldl_append

theorem placed_append (p : Place) (cs ds : List Char) :
    placed p (cs ++ ds) = placed p cs ++ placed (p.after cs) ds := by
  induction cs generalizing p with
  | nil => rfl
  | cons c cs ih =>
    rw [List.cons_append, placed, ih, placed, List.cons_append]
    rfl

theorem map_snd_placed (p : Place) (cs : List Char) : (placed p cs).map Prod.snd = cs := by
  induction cs generalizing p with
  | nil => rfl
  | cons c cs ih => rw [placed, List.map_cons, ih]

/-! ### Laid out texts -/

/-- A text is another one laid out: without the layout both have the same characters at the same
    places, and both end outside of literals. -/
structure LaidOut (cs ds : List Char) : Prop where
  content_eq : content cs = placed .outside ds
  after_eq : Place.outside.after cs = .outside
  after_eq' : Place.outside.after ds = .outside

namespace LaidOut

variable {cs ds cs' ds' : List Char}

theorem nil : LaidOut [] [] := ⟨rfl, rfl, rfl⟩

theorem append (h : LaidOut cs ds) (h' : LaidOut cs' ds') : LaidOut (cs ++ cs') (ds ++ ds') where
  content_eq := by
    rw [content, placed_append, List.filter_append, h.after_eq, placed_append, h.after_eq',
      ← h.content_eq, ← h'.content_eq, content, content]
  after_eq := by rw [after_append, h.after_eq, h'.after_eq]
  after_eq' := by rw [after_append, h.after_eq', h'.after_eq']

/-- A character that is neither a blank nor a quote stays. -/
theorem cons {c : Char} (hc : isMark c = true) (h : LaidOut cs ds) :
    LaidOut (c :: cs) (c :: ds) := by
  obtain ⟨⟨hquote, hspace⟩, hbreak⟩ : (c ≠ '"' ∧ c ≠ ' ') ∧ c ≠ '\n' := by
    simpa [isMark] using hc
  have hnext : Place.outside.next c = .outside := if_neg hquote
  have hsingle : LaidOut [c] [c] :=
    ⟨by simp [content, placed, isLayout, hspace, hbreak], hnext, hnext⟩
  exact hsingle.append h

theorem token (h : cs.all isMark = true) : LaidOut cs cs := by
  induction cs with
  | nil => exact nil
  | cons c cs ih =>
    rw [List.all_cons, Bool.and_eq_true] at h
    exact cons h.1 (ih h.2)

/-- A blank outside of literals is layout. -/
theorem blank {c : Char} (hc : c = ' ' ∨ c = '\n') (h : LaidOut cs ds) : LaidOut (c :: cs) ds := by
  have hsingle : LaidOut [c] [] := by rcases hc with rfl | rfl <;> exact ⟨rfl, rfl, rfl⟩
  exact hsingle.append h

theorem newLine (depth : Nat) : LaidOut (Json.newLine depth) [] := by
  refine blank (.inr rfl) ?_
  induction 2 * depth with
  | zero => exact nil
  | succ n ih => exact blank (.inl rfl) ih

theorem newLine_append (depth : Nat) (h : LaidOut cs ds) : LaidOut (Json.newLine depth ++ cs) ds :=
  (newLine depth).append h

theorem append_newLine (h : LaidOut cs ds) (depth : Nat) :
    LaidOut (cs ++ Json.newLine depth) ds := by
  have hend := h.append (newLine depth)
  rwa [List.append_nil] at hend

/-- A text that is laid out is itself without layout. -/
theorem self (h : LaidOut cs ds) : LaidOut ds ds where
  content_eq := by
    rw [content, ← h.content_eq, content, List.filter_filter]
    simp only [Bool.and_self]
  after_eq := h.after_eq'
  after_eq' := h.after_eq'

theorem withoutLayout_eq (h : LaidOut cs ds) : withoutLayout cs = ds := by
  rw [withoutLayout, h.content_eq, map_snd_placed]

/-- What is inside of literals is no layout. -/
theorem literalText_eq (h : LaidOut cs ds) : literalText cs = literalText ds := by
  have hkept : ∀ x ∈ placed .outside cs,
      (decide (x.1 ≠ .outside) && !isLayout x) = decide (x.1 ≠ .outside) := by
    rintro ⟨place, c⟩ -
    cases place <;> simp [isLayout]
  rw [literalText, literalText, ← h.content_eq, content, List.filter_filter,
    List.filter_congr hkept]

end LaidOut

/-- A text that may stand inside of a literal: it goes on there, and never leaves it. -/
structure StaysInside (cs : List Char) : Prop where
  after_eq : Place.inside.after cs = .inside
  inside : ∀ x ∈ placed .inside cs, x.1 ≠ .outside

instance (cs : List Char) : Decidable (StaysInside cs) :=
  decidable_of_iff (Place.inside.after cs = .inside ∧ ∀ x ∈ placed .inside cs, x.1 ≠ .outside)
    ⟨fun h => ⟨h.1, h.2⟩, fun h => ⟨h.after_eq, h.inside⟩⟩

theorem StaysInside.append {cs ds : List Char} (h : StaysInside cs) (h' : StaysInside ds) :
    StaysInside (cs ++ ds) where
  after_eq := by rw [after_append, h.after_eq, h'.after_eq]
  inside := by
    rw [placed_append, h.after_eq]
    exact List.forall_mem_append.2 ⟨h.inside, h'.inside⟩

/-- Quotes and backslashes are written so that they do not end the literal. -/
theorem staysInside_escapeChar (c : Char) : StaysInside (escapeChar c) := by
  rcases Nat.lt_or_ge c.toNat 0x20 with hlt | hge
  · exact Text.of_toNat_lt (P := fun c => StaysInside (escapeChar c)) (by decide) hlt
  · rw [escapeChar]
    split
    · decide
    split
    · decide
    · next hquote hslash =>
      have hnext : Place.inside.next c = .inside := by
        rw [Place.next, if_neg hquote, if_neg hslash]
      exact ⟨hnext, List.forall_mem_singleton.2 (by simp)⟩

theorem staysInside_escape (cs : List Char) : StaysInside (cs.flatMap escapeChar) := by
  induction cs with
  | nil => decide
  | cons c cs ih =>
    rw [List.flatMap_cons]
    exact (staysInside_escapeChar c).append ih

/-- There is no layout in a literal. -/
theorem LaidOut.literal (cs : List Char) : LaidOut (literal cs) (literal cs) := by
  have hbody := staysInside_escape cs
  have hplaced : placed .outside (Json.literal cs) =
      (.outside, '"') :: (placed .inside (cs.flatMap escapeChar) ++ [(.inside, '"')]) := by
    rw [Json.literal, placed]
    show _ :: placed .inside _ = _
    rw [placed_append, hbody.after_eq]
    rfl
  have hafter : Place.outside.after (Json.literal cs) = .outside := by
    show Place.inside.after _ = _
    rw [after_append, hbody.after_eq]
    rfl
  refine ⟨?_, hafter, hafter⟩
  rw [content, hplaced, List.filter_eq_self]
  refine List.forall_mem_cons.2 ⟨by decide, List.forall_mem_append.2 ⟨fun x hx => ?_,
    List.forall_mem_singleton.2 (by decide)⟩⟩
  rw [isLayout, decide_eq_false (hbody.inside x hx)]
  rfl

/-! ### Documents -/

theorem LaidOut.number {token : List Char} (h : NumberText token) : LaidOut token token := by
  refine .token (List.all_eq_true.2 (h.forall_mem (fun c hc => ?_) (by simp [isMark])))
  have hlow := (Char.isDigit_iff_toNat.1 hc).1
  simp only [isMark, Bool.and_eq_true, decide_eq_true_eq]
  refine ⟨⟨?_, ?_⟩, ?_⟩ <;>
  · rintro rfl
    exact absurd hlow (by decide)

/-- A member on a line of its own, with a space after the colon. -/
theorem LaidOut.member (key : String) {value compactValue : List Char} (depth : Nat)
    (h : LaidOut value compactValue) :
    LaidOut (Json.newLine depth ++ Json.literal key.toList ++ ':' :: ' ' :: value)
      (Json.literal key.toList ++ ':' :: compactValue) :=
  (newLine_append depth (literal key.toList)).append (cons (by decide) (blank (.inl rfl) h))

mutual

/-- The pretty text of a document is its compact text laid out. -/
theorem laidOut_pretty (depth : Nat) : ∀ j : Json, Sound j → LaidOut (j.pretty depth) j.compact
  | .null, _ => by
    rw [pretty, compact]
    exact .token (by decide)
  | .bool true, _ => by
    rw [pretty, compact]
    exact .token (by decide)
  | .bool false, _ => by
    rw [pretty, compact]
    exact .token (by decide)
  | .number token, h => by
    rw [pretty, compact]
    exact .number (h token (.self _))
  | .text s, _ => by
    rw [pretty, compact]
    exact .literal s.toList
  | .array [], _ => by
    rw [pretty, compact, compactItems]
    exact .token (by decide)
  | .array (j :: js), h => by
    obtain ⟨hj, hjs⟩ := List.forall_mem_cons.1 h.item
    have hitems := ((laidOut_pretty (depth + 1) j hj).newLine_append (depth + 1)).append
      (laidOut_prettyMoreItems (depth + 1) js hjs)
    rw [pretty, compact, compactItems]
    exact .cons (by decide) ((hitems.append_newLine depth).append (.token (by decide)))
  | .object [], _ => by
    rw [pretty, compact, compactMembers]
    exact .token (by decide)
  | .object ((key, j) :: members), h => by
    obtain ⟨hj, hms⟩ := List.forall_mem_cons.1 h.member
    have hmembers := (LaidOut.member key (depth + 1) (laidOut_pretty (depth + 1) j hj)).append
      (laidOut_prettyMoreMembers (depth + 1) members hms)
    rw [List.append_assoc (literal key.toList)] at hmembers
    rw [pretty, compact, compactMembers]
    exact .cons (by decide) ((hmembers.append_newLine depth).append (.token (by decide)))

theorem laidOut_prettyMoreItems (depth : Nat) : ∀ items : List Json, (∀ j ∈ items, Sound j) →
    LaidOut (prettyMoreItems depth items) (compactMoreItems items)
  | [], _ => by
    rw [prettyMoreItems, compactMoreItems]
    exact .nil
  | j :: items, h => by
    obtain ⟨hj, hjs⟩ := List.forall_mem_cons.1 h
    rw [prettyMoreItems, compactMoreItems]
    exact .cons (by decide) (((laidOut_pretty depth j hj).newLine_append depth).append
      (laidOut_prettyMoreItems depth items hjs))

theorem laidOut_prettyMoreMembers (depth : Nat) : ∀ members : List (String × Json),
    (∀ m ∈ members, Sound m.2) →
    LaidOut (prettyMoreMembers depth members) (compactMoreMembers members)
  | [], _ => by
    rw [prettyMoreMembers, compactMoreMembers]
    exact .nil
  | (key, j) :: members, h => by
    obtain ⟨hj, hms⟩ := List.forall_mem_cons.1 h
    have hmembers := (LaidOut.member key depth (laidOut_pretty depth j hj)).append
      (laidOut_prettyMoreMembers depth members hms)
    rw [List.append_assoc (literal key.toList)] at hmembers
    rw [prettyMoreMembers, compactMoreMembers]
    exact .cons (by decide) hmembers

end

/-- In strings blanks stay, also behind a quote that is escaped. -/
example : withoutLayout "[ \"a \\\" b\",\n  1 ]".toList = "[\"a \\\" b\",1]".toList := by decide

end SyntheticLoad.Json
