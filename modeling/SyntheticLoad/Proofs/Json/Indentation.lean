import SyntheticLoad.Proofs.Json.Printing

/-!
# What is printed over several lines is a document

In the pretty text of a document all tokens are those of the compact one, and what is between
them is blank: the line break and the indentation before an item or a member, and the space
behind a colon. So it is a text of the document as well (`document_pretty`), and of no other one.
-/

namespace SyntheticLoad.Json

theorem blanks_newLine (depth : Nat) : Blanks (newLine depth) := by
  refine List.forall_mem_cons.2 ⟨by simp, fun c hc => ?_⟩
  exact .inl (List.eq_of_mem_replicate hc)

/-- A member on a line of its own, with a space behind the colon. -/
theorem memberText_line (key : String) {j : Json} {v after : List Char} (depth : Nat)
    (h : ValueText j v) (hafter : Blanks after) :
    MemberText (key, j) (newLine depth ++ literal key.toList ++ ':' :: ' ' :: (v ++ after)) := by
  have hspace : Blanks [' '] := by simp [Blanks]
  have hm := MemberText.mk (blanks_newLine depth) (stringText_escape key.toList) blanks_nil
    (.mk hspace h hafter)
  rw [String.ofList_toList] at hm
  simpa [literal] using hm

mutual

theorem valueText_pretty (depth : Nat) : ∀ j : Json, Sound j → ValueText j (j.pretty depth)
  | .null, _ => by
    rw [pretty]
    exact .null
  | .bool true, _ => by
    rw [pretty]
    exact .yes
  | .bool false, _ => by
    rw [pretty]
    exact .no
  | .number token, h => by
    have hv := ValueText.number (h token (.self _))
    rwa [String.ofList_toList] at hv
  | .text s, _ => by
    have hv := ValueText.text (stringText_escape s.toList)
    rwa [String.ofList_toList] at hv
  | .array [], _ => by
    rw [pretty]
    exact .emptyArray blanks_nil
  | .array (j :: js), h => by
    have hitems := itemsText_pretty (depth + 1) (blanks_newLine depth) (j :: js) h.item
      (List.cons_ne_nil j js)
    rw [prettyMoreItems, List.tail_cons] at hitems
    rw [pretty]
    exact .array hitems
  | .object [], _ => by
    rw [pretty]
    exact .emptyObject blanks_nil
  | .object ((key, j) :: members), h => by
    have hmembers := membersText_pretty (depth + 1) (blanks_newLine depth) ((key, j) :: members)
      h.member (List.cons_ne_nil _ members)
    rw [prettyMoreMembers, List.tail_cons] at hmembers
    rw [pretty]
    exact .object hmembers

/-- The blanks behind the last item are those of the line of the closing bracket. -/
theorem itemsText_pretty (depth : Nat) {after : List Char} (hafter : Blanks after) :
    ∀ items : List Json, (∀ j ∈ items, Sound j) → items ≠ [] →
    ItemsText items ((prettyMoreItems depth items).tail ++ after)
  | [j], h, _ => by
    have hj := valueText_pretty depth j (h j List.mem_cons_self)
    rw [prettyMoreItems, prettyMoreItems, List.tail_cons, List.append_nil]
    exact .last (.mk (blanks_newLine depth) hj hafter)
  | j :: k :: items, h, _ => by
    have hj := valueText_pretty depth j (h j List.mem_cons_self)
    have hmore := itemsText_pretty depth hafter (k :: items)
      (fun k hk => h k (List.mem_cons_of_mem j hk)) (List.cons_ne_nil k items)
    have hitems := ItemsText.more (.mk (blanks_newLine depth) hj blanks_nil) hmore
    rw [prettyMoreItems]
    rw [prettyMoreItems] at hitems ⊢
    simpa using hitems

theorem membersText_pretty (depth : Nat) {after : List Char} (hafter : Blanks after) :
    ∀ members : List (String × Json), (∀ m ∈ members, Sound m.2) → members ≠ [] →
    MembersText members ((prettyMoreMembers depth members).tail ++ after)
  | [(key, j)], h, _ => by
    have hj := valueText_pretty depth j (h _ List.mem_cons_self)
    have hmember := memberText_line key depth hj hafter
    rw [prettyMoreMembers, prettyMoreMembers, List.tail_cons, List.append_nil]
    simpa using MembersText.last hmember
  | (key, j) :: (key', k) :: members, h, _ => by
    have hj := valueText_pretty depth j (h _ List.mem_cons_self)
    have hmore := membersText_pretty depth hafter ((key', k) :: members)
      (fun m hm => h m (List.mem_cons_of_mem _ hm)) (List.cons_ne_nil _ members)
    have hmembers := MembersText.more (memberText_line key depth hj blanks_nil) hmore
    rw [prettyMoreMembers]
    rw [prettyMoreMembers] at hmembers ⊢
    simpa using hmembers

end

/-- The pretty text of a document is a text of it. -/
theorem document_pretty {j : Json} (h : Sound j) (depth : Nat) : Document j (j.pretty depth) :=
  (valueText_pretty depth j h).document

end SyntheticLoad.Json
