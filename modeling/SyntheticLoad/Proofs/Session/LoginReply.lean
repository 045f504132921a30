import SyntheticLoad.Proofs.Json.Remainder
import SyntheticLoad.Session.LoginReply

/-!
# The token of a document

Which token a reply to a login holds is said of its document (`documentToken?`): an object holds
the value of its only member `token`, or none if there is no such member, and an array holds its
only item. A token is a string, or `null`, which is none. Any other document holds nothing that
could be taken for a token.

If the body of a reply is the text of a document, its token is that of the document
(`replyToken?_utf8`), and it is unreadable if the document holds nothing of the kind. The members
that are no tokens are passed over, which documents always allow (`skipMember`).

The bytes of a member that is passed over need not be text, so a body can hold a token and be the
text of no document. But it is an object or an array in any case (`enclosed_of_replyToken?`).
-/

namespace SyntheticLoad.Session

open Json Text

/-! ### Tokens of documents -/

/-- A value as a token. -/
def valueToken? : Json → Option (Option String)
  | .text token => some (some token)
  | .null => some none
  | _ => none

/-- The token among the members of an object: that of the only member with its name. -/
def memberToken? (members : List (String × Json)) : Option (Option String) :=
  match members.filter (·.1 = "token") with
  | [] => some none
  | [(_, j)] => valueToken? j
  | _ => none

/-- The token that a document holds; the outer `none` is that of a document that can hold none. -/
def documentToken? : Json → Option (Option String)
  | .object members => memberToken? members
  | .array [j] => valueToken? j
  | _ => none

/-! ### Parts of a document -/

section

variable {rest : List Char}

/-- A literal whose text is kept is read from its bytes. -/
theorem readKept_byteChars {cs body : List Char} (h : StringText cs body) (rest : List Char) :
    readKept (byteChars body ++ '"' :: rest) = some (cs, rest) := by
  obtain ⟨ds, hds⟩ := h.byteChars
  obtain ⟨es, hes⟩ := readLiteral_skipping _ _ _ (readLiteral_append hds rest)
  have hquote : byteChars (body ++ ['"']) = byteChars body ++ ['"'] := by
    rw [byteChars_append]
    rfl
  have htake : (byteChars body ++ '"' :: rest).take
      ((byteChars body ++ '"' :: rest).length - rest.length) = byteChars (body ++ ['"']) := by
    rw [hquote, List.append_cons, List.length_append, Nat.add_sub_cancel, List.take_left]
  simp only [readKept, hes, htake, textOf?_byteChars, readLiteral_append h [], Option.bind_eq_bind,
    Option.bind_some, Option.pure_def]

/-- What begins neither with a quote nor with an `n` is no token. -/
theorem readToken_eq_none {c : Char} {cs : List Char} (hspace : isSpace c = false) (hn : c ≠ 'n')
    (hquote : c ≠ '"') : readToken (c :: cs) = none := by
  rw [readToken, skipSpace_cons hspace]
  split
  · next heq => exact absurd (List.cons.inj heq).1 hn
  · next heq => exact absurd (List.cons.inj heq).1 hquote
  · rfl

theorem readToken_skipSpace (cs : List Char) : readToken (skipSpace cs) = readToken cs := by
  rw [readToken, readToken, skipSpace_skipSpace]

/-- A value is read as a token if it is one. -/
theorem readToken_byteChars {j : Json} {w : List Char} (h : Document j w) (rest : List Char) :
    ∃ b, Blanks b ∧
      readToken (byteChars w ++ rest) = (valueToken? j).map fun token => (token, b ++ rest) := by
  obtain @⟨j, before, v, after, hbefore, hv, hafter⟩ := h
  obtain ⟨j', hv'⟩ := hv.byteChars
  refine ⟨after, hafter, ?_⟩
  have hskip : skipSpace (byteChars (before ++ v ++ after) ++ rest) =
      byteChars v ++ (after ++ rest) := by
    rw [byteChars_append, byteChars_append, hbefore.byteChars, hafter.byteChars, List.append_assoc,
      hv'.skipSpace_append hbefore]
  rw [← readToken_skipSpace, hskip]
  cases hv with
  | null => rfl
  | @text cs body h =>
    have hbytes : byteChars ('"' :: (body ++ ['"'])) ++ (after ++ rest) =
        '"' :: (byteChars body ++ '"' :: (after ++ rest)) := by
      rw [byteChars_cons (by decide), byteChars_append, List.cons_append, List.append_assoc]
      rfl
    rw [hbytes, readToken, skipSpace_cons (by rfl)]
    simp only
    rw [readKept_byteChars h]
    rfl
  | @number token h =>
    obtain ⟨c, cs, rfl, hspace, -⟩ := (ValueText.number h).head
    have hword := h.not_word
    rw [h.byteChars, List.cons_append]
    refine readToken_eq_none hspace ?_ ?_ <;> rintro rfl <;> exact hword (by decide)
  | _ =>
    rw [byteChars_cons (by decide), List.cons_append]
    exact readToken_eq_none (by rfl) (by decide) (by decide)

/-- Any value may be passed over. -/
theorem skipMember {j : Json} {w : List Char} (h : Document j w) (hrest : Closes rest) :
    ∃ b j', Blanks b ∧ readValue .skipping (stepsFor (byteChars w ++ rest)) (byteChars w ++ rest) =
      some (j', b ++ rest) := by
  obtain ⟨j', hj'⟩ := h.byteChars
  obtain ⟨b, hb, hread⟩ := hj'.read hrest (stepsFor (byteChars w ++ rest)) (by
    rw [stepsFor, List.length_append]
    omega)
  obtain ⟨j'', hskip⟩ := readValue_skipping _ _ _ _ hread
  exact ⟨b, j'', hb, hskip⟩

end

/-! ### Members -/

/-- What has been found after one more member: a second token is one too many. -/
def foundAfter (found : Option (Option String)) (m : String × Json) :
    Option (Option (Option String)) :=
  if m.1 = "token" then
    match found with
    | some _ => none
    | none => (valueToken? m.2).map some
  else
    some found

section

variable {fuel : Nat} {found : Option (Option String)} {m : String × Json} {w rest : List Char}

/-- A member is read for what it adds, and what comes next decides how to go on. -/
theorem readReplyMembers_member (h : MemberText m w) (hrest : Closes rest) :
    ∃ b, Blanks b ∧ readReplyMembers (fuel + 1) found (byteChars w ++ rest) =
      (foundAfter found m).bind fun found =>
        match skipSpace (b ++ rest) with
        | '\x7d' :: rest => some (found.getD none, rest)
        | ',' :: rest => readReplyMembers fuel found rest
        | _ => none := by
  obtain @⟨key, body, before, after, value, j, hbefore, hkey, hafter, hvalue⟩ := h
  have hbytes : byteChars (before ++ '"' :: (body ++ '"' :: (after ++ ':' :: value))) ++ rest =
      before ++ '"' :: (byteChars body ++ '"' :: (after ++ ':' :: (byteChars value ++ rest))) := by
    rw [byteChars_append, byteChars_cons (by decide), byteChars_append, byteChars_cons (by decide),
      byteChars_append, byteChars_cons (by decide), hbefore.byteChars, hafter.byteChars]
    simp only [List.append_assoc, List.cons_append]
  have hname : String.ofList key = "token" ↔ key = "token".toList := by
    rw [← String.toList_inj, String.toList_ofList]
  rw [hbytes, readReplyMembers, skipSpace_blanks hbefore, skipSpace_cons (by rfl)]
  simp only
  rw [readKept_byteChars hkey]
  simp only
  rw [skipSpace_blanks hafter, skipSpace_cons (by rfl)]
  simp only [foundAfter, hname]
  by_cases htoken : key = "token".toList
  · simp only [if_pos htoken]
    obtain ⟨b, hb, hread⟩ := readToken_byteChars hvalue rest
    refine ⟨b, hb, ?_⟩
    cases found with
    | some token => rfl
    | none =>
      rw [hread]
      cases valueToken? j <;> rfl
  · simp only [if_neg htoken]
    obtain ⟨b, j', hb, hread⟩ := skipMember hvalue hrest
    refine ⟨b, hb, ?_⟩
    rw [hread]
    rfl

/-- The object ends behind a member at a brace. -/
theorem readReplyMembers_last (h : MemberText m w) :
    readReplyMembers (fuel + 1) found (byteChars w ++ '\x7d' :: rest) =
      (foundAfter found m).map fun found => (found.getD none, rest) := by
  obtain ⟨b, hb, hread⟩ := readReplyMembers_member h (closes_brace rest)
  rw [hread, skipSpace_blanks hb, skipSpace_cons (by rfl)]
  cases foundAfter found m <;> rfl

/-- The object goes on behind a member at a comma. -/
theorem readReplyMembers_more (h : MemberText m w) :
    readReplyMembers (fuel + 1) found (byteChars w ++ ',' :: rest) =
      (foundAfter found m).bind fun found => readReplyMembers fuel found rest := by
  obtain ⟨b, hb, hread⟩ := readReplyMembers_member h (closes_comma rest)
  rw [hread, skipSpace_blanks hb, skipSpace_cons (by rfl)]
  rfl

end

/-- Each member takes one step and at least one byte. -/
theorem readReplyMembers_byteChars : ∀ {ms : List (String × Json)} {ws : List Char},
    MembersText ms ws → ∀ {fuel : Nat}, (byteChars ws).length < fuel →
      ∀ (found : Option (Option String)) (rest : List Char),
        readReplyMembers fuel found (byteChars ws ++ '\x7d' :: rest) =
          (ms.foldlM foundAfter found).map fun found => (found.getD none, rest)
  | _, _, .last h, fuel + 1, _, found, rest => by
    rw [readReplyMembers_last h, List.foldlM_cons]
    cases foundAfter found _ <;> rfl
  | _, _, .more h hs, fuel + 1, hfuel, found, rest => by
    rw [byteChars_append, byteChars_cons (by decide)] at hfuel ⊢
    rw [List.length_append, List.length_cons] at hfuel
    rw [List.append_assoc, List.cons_append, readReplyMembers_more h, List.foldlM_cons]
    cases foundAfter found _ with
    | none => rfl
    | some found => exact readReplyMembers_byteChars hs (by omega) found rest

/-- Without the blanks in front of them, the members are still the same. -/
theorem exists_skipSpace_members {ms : List (String × Json)} {ws : List Char}
    (h : MembersText ms ws) (rest : List Char) : ∃ ws' cs, MembersText ms ws' ∧
      skipSpace (byteChars ws ++ rest) = byteChars ws' ++ rest ∧ byteChars ws' = '"' :: cs := by
  have hmember : ∀ {m w}, MemberText m w → ∃ w', MemberText m ('"' :: w') ∧
      ∀ rest, skipSpace (byteChars w ++ rest) = '"' :: (byteChars w' ++ rest) := by
    rintro m _ ⟨hbefore, hkey, hafter, hvalue⟩
    refine ⟨_, .mk blanks_nil hkey hafter hvalue, fun rest => ?_⟩
    rw [byteChars_append, hbefore.byteChars, byteChars_cons (by decide), List.append_assoc,
      skipSpace_blanks hbefore, List.cons_append, skipSpace_cons (by rfl)]
  cases h with
  | last h =>
    obtain ⟨w', hw', hskip⟩ := hmember h
    rw [hskip]
    exact ⟨_, _, .last hw', (by rw [byteChars_cons (by decide)]; rfl), byteChars_cons (by decide) _⟩
  | more h hs =>
    obtain ⟨w', hw', hskip⟩ := hmember h
    rw [byteChars_append, List.append_assoc, hskip]
    refine ⟨_, _, .more hw' hs, ?_, byteChars_cons (by decide) _⟩
    rw [byteChars_append ('"' :: w'), byteChars_cons (by decide) w', List.append_assoc,
      List.cons_append]

section

variable {m : String × Json} {ms : List (String × Json)}

theorem memberToken?_cons_other (h : m.1 ≠ "token") : memberToken? (m :: ms) = memberToken? ms := by
  rw [memberToken?, List.filter_cons_of_neg (by simpa using h), memberToken?]

theorem memberToken?_cons_token (h : m.1 = "token") : memberToken? (m :: ms) =
    if ms.filter (·.1 = "token") = [] then valueToken? m.2 else none := by
  rw [memberToken?, List.filter_cons_of_pos (by simpa using h)]
  cases ms.filter (·.1 = "token") <;> rfl

end

theorem foldlM_foundAfter_some (token : Option String) (ms : List (String × Json)) :
    ms.foldlM foundAfter (some token) =
      if ms.filter (·.1 = "token") = [] then some (some token) else none := by
  induction ms with
  | nil => rfl
  | cons m ms ih =>
    rw [List.foldlM_cons, foundAfter]
    by_cases hm : m.1 = "token"
    · rw [if_pos hm, List.filter_cons_of_pos (by simpa using hm)]
      rfl
    · rw [if_neg hm, List.filter_cons_of_neg (by simpa using hm)]
      exact ih

/-- The members of an object come to the token among them. -/
theorem foldlM_foundAfter (ms : List (String × Json)) :
    (ms.foldlM foundAfter none).map (·.getD none) = memberToken? ms := by
  induction ms with
  | nil => rfl
  | cons m ms ih =>
    rw [List.foldlM_cons, foundAfter]
    by_cases hm : m.1 = "token"
    · rw [if_pos hm, memberToken?_cons_token hm]
      cases valueToken? m.2 with
      | none => exact (ite_self none).symm
      | some token =>
        show (ms.foldlM foundAfter (some token)).map _ = _
        rw [foldlM_foundAfter_some]
        split <;> rfl
    · rw [if_neg hm, memberToken?_cons_other hm]
      exact ih

/-! ### Replies -/

/-- An array is read up to its bracket if it has just one item. -/
theorem readReplyItem_byteChars {js : List Json} {ws : List Char} (h : ItemsText js ws)
    (rest : List Char) : readReplyItem (byteChars ws ++ ']' :: rest) =
      (documentToken? (.array js)).map fun token => (token, rest) := by
  cases h with
  | @last j _ h =>
    obtain ⟨b, hb, hread⟩ := readToken_byteChars h (']' :: rest)
    rw [readReplyItem, hread, documentToken?]
    cases valueToken? j with
    | none => rfl
    | some token =>
      simp only [Option.map_some, Option.bind_eq_bind, Option.bind_some]
      rw [skipSpace_blanks hb, skipSpace_cons (by rfl)]
      rfl
  | @more j js _ _ h hs =>
    -- There is another item behind the comma.
    obtain ⟨b, hb, hread⟩ := readToken_byteChars h (',' :: (byteChars _ ++ ']' :: rest))
    have hmore : documentToken? (.array (j :: js)) = none := by cases hs <;> rfl
    rw [byteChars_append, byteChars_cons (by decide), List.append_assoc, List.cons_append,
      readReplyItem, hread, hmore]
    cases valueToken? j with
    | none => rfl
    | some token =>
      simp only [Option.map_some, Option.bind_eq_bind, Option.bind_some]
      rw [skipSpace_blanks hb, skipSpace_cons (by rfl)]
      rfl

section

variable {body : List UInt8} {cs after : List Char} {token? : Option (Option String)}

/-- What begins neither with a brace nor with a bracket is no reply. -/
theorem replyToken?_eq_none {c : Char} (hbody : skipSpace (body.map byteChar) = c :: cs)
    (hbrace : c ≠ '\x7b') (hbracket : c ≠ '[') : replyToken? body = none := by
  rw [replyToken?, hbody]
  split
  · next heq => exact absurd (List.cons.inj heq).1 hbrace
  · next heq => exact absurd (List.cons.inj heq).1 hbracket
  · rfl

variable (hafter : Blanks after)

include hafter

theorem skipSpace_eq_nil : skipSpace after = [] := by
  have hskip := skipSpace_blanks hafter []
  rwa [List.append_nil] at hskip

/-- The token of an array with blanks around it. -/
theorem replyToken?_of_item (hbody : skipSpace (body.map byteChar) = '[' :: cs)
    (hitem : readReplyItem cs = token?.map fun token => (token, after)) :
    replyToken? body = token? := by
  rw [replyToken?, hbody]
  show (readReplyItem cs).bind _ = _
  rw [hitem]
  cases token? with
  | none => rfl
  | some token =>
    simp only [Option.map_some, Option.bind_some, skipSpace_eq_nil hafter]
    rfl

/-- An object without members holds no token. -/
theorem replyToken?_of_brace (hbody : skipSpace (body.map byteChar) = '\x7b' :: cs)
    (hbrace : skipSpace cs = '\x7d' :: after) : replyToken? body = some none := by
  rw [replyToken?, hbody]
  simp only [hbrace, Option.bind_eq_bind, Option.bind_some, skipSpace_eq_nil hafter]
  rfl

/-- The token of an object with blanks around it. -/
theorem replyToken?_of_members (hbody : skipSpace (body.map byteChar) = '\x7b' :: cs)
    (hhead : (skipSpace cs).head? ≠ some '\x7d')
    (hmembers : readReplyMembers ((skipSpace cs).length + 1) none (skipSpace cs) =
      token?.map fun token => (token, after)) : replyToken? body = token? := by
  rw [replyToken?, hbody]
  simp only
  split
  · next heq => exact absurd (by rw [heq]; rfl) hhead
  rw [hmembers]
  cases token? with
  | none => rfl
  | some token =>
    simp only [Option.map_some, Option.bind_eq_bind, Option.bind_some, skipSpace_eq_nil hafter]
    rfl

end

/-- **The token of a reply is that of its document.** -/
theorem replyToken?_utf8 {j : Json} {s : String} (h : Document j s.toList) :
    replyToken? (utf8 s) = documentToken? j := by
  have hbytes := map_byteChar_utf8 s
  generalize s.toList = cs at h hbytes
  obtain @⟨j, before, v, after, hbefore, hv, hafter⟩ := h
  obtain ⟨j', hv'⟩ := hv.byteChars
  have hbody : skipSpace ((utf8 s).map byteChar) = byteChars v ++ after := by
    rw [hbytes, byteChars_append, byteChars_append, hbefore.byteChars, hafter.byteChars,
      hv'.skipSpace_append hbefore]
  cases hv with
  | number h =>
    obtain ⟨c, cs, rfl, -⟩ := h.head
    have hword := h.not_word
    rw [h.byteChars, List.cons_append] at hbody
    refine replyToken?_eq_none hbody ?_ ?_ <;> rintro rfl <;> exact hword (by decide)
  | @emptyArray blanks hb =>
    rw [byteChars_cons (by decide), byteChars_append, hb.byteChars, List.cons_append,
      List.append_assoc] at hbody
    refine replyToken?_of_item hafter hbody ?_
    have hbracket : readToken (blanks ++ ']' :: after) = none := by
      rw [← readToken_skipSpace, skipSpace_blanks hb, skipSpace_cons (by rfl)]
      exact readToken_eq_none (by rfl) (by decide) (by decide)
    show readReplyItem (blanks ++ ']' :: after) = none
    rw [readReplyItem, hbracket]
    rfl
  | array h =>
    rw [byteChars_cons (by decide), byteChars_append, List.cons_append, List.append_assoc] at hbody
    exact replyToken?_of_item hafter hbody (readReplyItem_byteChars h after)
  | @emptyObject blanks hb =>
    rw [byteChars_cons (by decide), byteChars_append, hb.byteChars, List.cons_append,
      List.append_assoc] at hbody
    exact replyToken?_of_brace hafter hbody ((skipSpace_blanks hb _).trans (skipSpace_cons rfl _))
  | @object ms body h =>
    rw [byteChars_cons (by decide), byteChars_append, List.cons_append, List.append_assoc] at hbody
    obtain ⟨ws', cs, hws', hskip, hquote⟩ := exists_skipSpace_members h ('\x7d' :: after)
    refine replyToken?_of_members hafter hbody ?_ ?_
    · show (skipSpace (byteChars body ++ '\x7d' :: after)).head? ≠ _
      rw [hskip, hquote]
      exact fun hhead => absurd (Option.some.inj hhead) (by decide)
    · show readReplyMembers ((skipSpace (byteChars body ++ '\x7d' :: after)).length + 1) none
        (skipSpace (byteChars body ++ '\x7d' :: after)) = _
      rw [hskip, readReplyMembers_byteChars hws' (by rw [List.length_append]; omega),
        documentToken?, ← foldlM_foundAfter, Option.map_map]
      rfl
  | _ =>
    rw [byteChars_cons (by decide), List.cons_append] at hbody
    exact replyToken?_eq_none hbody (by decide) (by decide)

/-! ### Bytes that are no reply -/

/-- A text from one bracket to another, with blanks around it. -/
def Enclosed (opening closing : Char) (cs : List Char) : Prop :=
  ∃ before inner after, Blanks before ∧ Blanks after ∧
    cs = before ++ opening :: (inner ++ closing :: after)

/-- If anything is read, it is read up to a bracket. -/
def Shuts {α : Type} (closing : Char) (cs : List Char) (r : Option (α × List Char)) : Prop :=
  Leaves cs (r.map fun (a, rest) => (a, closing :: rest))

theorem readKept_leaves (cs : List Char) : Leaves cs (readKept cs) := by
  intro s after h
  simp only [readKept, Option.bind_eq_bind, Option.bind_eq_some_iff, Option.pure_def,
    Option.some.injEq, Prod.mk.injEq] at h
  obtain ⟨⟨ds, rest⟩, hread, -, -, -, -, -, rfl⟩ := h
  exact readLiteral_leaves _ cs ds rest hread

theorem readToken_leaves (cs : List Char) : Leaves cs (readToken cs) := by
  rw [readToken]
  refine Leaves.mono ?_ (skipSpace_suffix cs)
  split
  · next rest heq => exact heq ▸ .some (List.suffix_append ['n', 'u', 'l', 'l'] rest)
  · next rest heq =>
    exact heq ▸ ((readKept_leaves rest).map fun s => some (String.ofList s)).cons _
  · exact .none

theorem readReplyItem_shuts (cs : List Char) : Shuts ']' cs (readReplyItem cs) := by
  rw [Shuts, readReplyItem]
  cases hread : readToken cs with
  | none => exact .none
  | some read =>
    obtain ⟨token, after⟩ := read
    refine Leaves.mono ?_ ((skipSpace_suffix after).trans (readToken_leaves cs token after hread))
    simp only [Option.bind_eq_bind, Option.bind_some]
    split
    · next rest heq => exact heq ▸ .some (List.suffix_refl _)
    · exact .none

theorem readReplyMembers_shuts : ∀ (fuel : Nat) (found : Option (Option String))
    (cs : List Char), Shuts '\x7d' cs (readReplyMembers fuel found cs)
  | 0, found, cs => by
    rw [readReplyMembers]
    exact .none
  | fuel + 1, found, cs => by
    rw [readReplyMembers]
    refine Leaves.mono ?_ (skipSpace_suffix cs)
    split
    case h_2 => exact .none
    next name heq =>
    rw [heq]
    refine Leaves.cons ?_ _
    split
    · exact .none
    next key after hkey =>
    refine Leaves.mono ?_ ((skipSpace_suffix after).trans (readKept_leaves name key after hkey))
    split
    case h_2 => exact .none
    next value heq =>
    rw [heq]
    refine Leaves.cons ?_ _
    dsimp only
    split
    · exact .none
    next found' after hmember =>
    -- The value of the member is a token or was passed over.
    have hafter : after <:+ value := by
      split at hmember
      · cases found with
        | some token => cases hmember
        | none => exact (readToken_leaves value).map some found' after hmember
      · exact (readValue_leaves _ _ value).map (fun _ => found) found' after hmember
    refine Leaves.mono ?_ ((skipSpace_suffix after).trans hafter)
    split
    · next rest heq => exact heq ▸ .some (List.suffix_refl _)
    · next rest heq => exact heq ▸ (readReplyMembers_shuts fuel found' rest).cons _
    · exact .none

/-- What is read up to a bracket with only blanks behind it is enclosed. -/
theorem Shuts.enclosed {opening closing : Char} {cs inner : List Char} {token : Option String}
    {r : Option (Option String × List Char)} (hr : Shuts closing inner r)
    (hcs : skipSpace cs = opening :: inner)
    (h : (do
      let (token, rest) ← r
      if (skipSpace rest).isEmpty then pure token else none) = some token) :
    Enclosed opening closing cs := by
  obtain ⟨⟨token', rest⟩, hread, h⟩ := Option.bind_eq_some_iff.1 h
  have hrest : (skipSpace rest).isEmpty = true := by
    refine Decidable.byContradiction fun hrest => ?_
    simp only [if_neg hrest] at h
    cases h
  obtain ⟨before, hbefore, heq⟩ := exists_blanks cs
  obtain ⟨after, hafter, hafter_eq⟩ := exists_blanks rest
  rw [List.isEmpty_iff.1 hrest, List.append_nil] at hafter_eq
  obtain ⟨middle, hmiddle⟩ := hr token' (closing :: rest) (by rw [hread]; rfl)
  exact ⟨before, middle, after, hbefore, hafter, by rw [heq, hcs, ← hmiddle, hafter_eq]⟩

/-- **A reply is an object or an array**, with nothing but blanks around it. -/
theorem enclosed_of_replyToken? {body : List UInt8} {token : Option String}
    (h : replyToken? body = some token) :
    Enclosed '\x7b' '\x7d' (body.map byteChar) ∨ Enclosed '[' ']' (body.map byteChar) := by
  rw [replyToken?] at h
  split at h
  · next inner heq =>
    left
    split at h
    · next rest hempty =>
      have hshuts : Shuts '\x7d' inner (some ((none : Option String), rest)) :=
        .mono (.some (List.suffix_refl _)) (hempty ▸ skipSpace_suffix inner)
      exact hshuts.enclosed heq h
    · refine Shuts.enclosed (Leaves.mono ?_ (skipSpace_suffix inner)) heq h
      exact readReplyMembers_shuts _ _ _
  · next inner heq => exact .inr ((readReplyItem_shuts inner).enclosed heq h)
  · cases h

end SyntheticLoad.Session
