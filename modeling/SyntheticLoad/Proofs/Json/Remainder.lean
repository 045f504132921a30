import SyntheticLoad.Proofs.Json.Bytes

/-!
# What a reader leaves

A reader takes some of a text from its start, and what it leaves is an end of the text
(`Leaves`). This holds of the reader of each part of a document, whatever it reads for, so the
reader of a whole document has seen all of the text when nothing is left (`readValue_leaves`).
-/

namespace SyntheticLoad.Json

/-- If anything is read, what is left is an end of the text. -/
def Leaves {α : Type} (cs : List Char) (r : Option (α × List Char)) : Prop :=
  ∀ a rest, r = some (a, rest) → rest <:+ cs

namespace Leaves

variable {α β : Type} {cs ds : List Char} {r : Option (α × List Char)}

theorem none : Leaves cs (none : Option (α × List Char)) := by
  rintro _ _ ⟨⟩

theorem some {a : α} (h : ds <:+ cs) : Leaves cs (some (a, ds)) := by
  rintro _ _ ⟨⟩
  exact h

theorem mono (h : Leaves ds r) (hsuffix : ds <:+ cs) : Leaves cs r :=
  fun a rest hr => (h a rest hr).trans hsuffix

theorem cons (h : Leaves cs r) (c : Char) : Leaves (c :: cs) r := h.mono (List.suffix_cons c cs)

theorem map (h : Leaves cs r) (f : α → β) :
    Leaves cs (r.map fun (a, rest) => (f a, rest)) := by
  intro _ rest hr
  obtain ⟨⟨a, _⟩, ha, heq⟩ := Option.map_eq_some_iff.1 hr
  cases heq
  exact h a rest ha

theorem bind (h : Leaves cs r) {f : α × List Char → Option (β × List Char)}
    (hf : ∀ a rest, rest <:+ cs → Leaves cs (f (a, rest))) : Leaves cs (r.bind f) := by
  intro b rest hr
  obtain ⟨⟨a, rest'⟩, ha, hb⟩ := Option.bind_eq_some_iff.1 hr
  exact hf a rest' (h a rest' ha) b rest hb

end Leaves

theorem skipSpace_suffix (cs : List Char) : skipSpace cs <:+ cs := List.dropWhile_suffix _

/-- Only blanks are skipped. -/
theorem exists_blanks (cs : List Char) : ∃ b, Blanks b ∧ cs = b ++ skipSpace cs :=
  ⟨cs.takeWhile isSpace, fun _ hc => isSpace_iff.1 (List.all_eq_true.1 List.all_takeWhile _ hc),
    List.takeWhile_append_dropWhile.symm⟩

/-! ### Numbers -/

theorem readDigits_leaves (cs : List Char) : Leaves cs (readDigits cs) := by
  rw [readDigits]
  split
  · exact .none
  · exact .some (List.dropWhile_suffix _)

theorem readWhole_leaves (cs : List Char) : Leaves cs (readWhole cs) := by
  refine (readDigits_leaves cs).bind fun ds rest hrest => ?_
  dsimp only
  split
  · exact .none
  · exact .some hrest

theorem readDecimals_leaves (cs : List Char) : Leaves cs (readDecimals cs) := by
  rw [readDecimals.eq_def]
  split
  · exact ((readDigits_leaves _).map _).cons '.'
  · exact .some (List.suffix_refl _)

theorem readSigned_leaves (cs : List Char) : Leaves cs (readSigned cs) := by
  rw [readSigned.eq_def]
  split
  · exact ((readDigits_leaves _).map _).cons '+'
  · exact ((readDigits_leaves _).map _).cons '-'
  · exact readDigits_leaves _

theorem readExponent_leaves (cs : List Char) : Leaves cs (readExponent cs) := by
  rw [readExponent.eq_def]
  split
  · exact ((readSigned_leaves _).map _).cons 'e'
  · exact ((readSigned_leaves _).map _).cons 'E'
  · exact .some (List.suffix_refl _)

theorem readUnsigned_leaves (cs : List Char) : Leaves cs (readUnsigned cs) :=
  (readWhole_leaves cs).bind fun _ rest hrest =>
    ((readDecimals_leaves rest).mono hrest).bind fun _ rest' hrest' =>
      ((readExponent_leaves rest').mono hrest').bind fun _ _ hend => .some hend

theorem readNumber_leaves (cs : List Char) : Leaves cs (readNumber cs) := by
  rw [readNumber.eq_def]
  split
  · exact ((readUnsigned_leaves _).map _).cons '-'
  · exact readUnsigned_leaves _

/-! ### Literals -/

theorem readLiteral_leaves (mode : Reading) (cs : List Char) :
    Leaves cs (readLiteral mode cs) := by
  have hunit : ∀ {a b c d : Char} {cs r}, Leaves (α := List Char) cs r →
      Leaves ('\\' :: 'u' :: a :: b :: c :: d :: cs) r := fun {a b c d cs r} h =>
    h.mono (List.suffix_append ['\\', 'u', a, b, c, d] cs)
  fun_induction readLiteral mode cs with
  | case2 => exact .some (List.suffix_cons _ _)
  | case4 _ _ _ _ _ _ _ _ ih => exact hunit (ih.map _)
  | case7 _ _ _ _ _ _ _ _ _ _ _ _ _ _ _ _ _ ih => exact hunit (hunit (ih.map _))
  | case10 _ _ _ _ _ _ _ _ _ _ ih => exact hunit (ih.map _)
  | case12 _ _ _ _ _ ih => exact ((ih.map _).cons _).cons _
  | case14 _ _ _ _ _ _ ih => exact (ih.map _).cons _
  | _ => exact .none

/-! ### Documents -/

mutual

theorem readValue_leaves (mode : Reading) : ∀ (fuel : Nat) (cs : List Char),
    Leaves cs (readValue mode fuel cs)
  | 0, cs => by
    rw [readValue]
    exact .none
  | fuel + 1, cs => by
    rw [readValue]
    refine Leaves.mono ?_ (skipSpace_suffix cs)
    split
    · next rest heq => exact heq ▸ .some (List.suffix_append ['n', 'u', 'l', 'l'] rest)
    · next rest heq => exact heq ▸ .some (List.suffix_append ['t', 'r', 'u', 'e'] rest)
    · next rest heq => exact heq ▸ .some (List.suffix_append ['f', 'a', 'l', 's', 'e'] rest)
    · next rest heq =>
      exact heq ▸ ((readLiteral_leaves mode rest).map fun s => text (String.ofList s)).cons _
    · next rest heq =>
      refine heq ▸ Leaves.cons (Leaves.mono ?_ (skipSpace_suffix rest)) _
      split
      · next rest heq => exact heq ▸ .some (List.suffix_cons _ _)
      · exact (readItems_leaves mode fuel _).map _
    · next rest heq =>
      refine heq ▸ Leaves.cons (Leaves.mono ?_ (skipSpace_suffix rest)) _
      split
      · next rest heq => exact heq ▸ .some (List.suffix_cons _ _)
      · exact (readMembers_leaves mode fuel _).map _
    · exact (readNumber_leaves _).map fun token => number (String.ofList token)

theorem readItems_leaves (mode : Reading) : ∀ (fuel : Nat) (cs : List Char),
    Leaves cs (readItems mode fuel cs)
  | 0, cs => by
    rw [readItems]
    exact .none
  | fuel + 1, cs => by
    rw [readItems]
    split
    · exact .none
    next item after hitem =>
    refine Leaves.mono ?_ ((skipSpace_suffix after).trans
      (readValue_leaves mode fuel cs item after hitem))
    split
    · next rest heq => exact heq ▸ .some (List.suffix_cons _ _)
    · next rest heq => exact heq ▸ ((readItems_leaves mode fuel rest).map (item :: ·)).cons _
    · exact .none

theorem readMembers_leaves (mode : Reading) : ∀ (fuel : Nat) (cs : List Char),
    Leaves cs (readMembers mode fuel cs)
  | 0, cs => by
    rw [readMembers]
    exact .none
  | fuel + 1, cs => by
    rw [readMembers]
    refine Leaves.mono ?_ (skipSpace_suffix cs)
    split
    case h_2 => exact .none
    next name heq =>
    rw [heq]
    refine Leaves.cons ?_ _
    split
    · exact .none
    next key after hkey =>
    refine Leaves.mono ?_ ((skipSpace_suffix after).trans
      (readLiteral_leaves mode name key after hkey))
    split
    case h_2 => exact .none
    next value heq =>
    rw [heq]
    refine Leaves.cons ?_ _
    split
    · exact .none
    next j after hvalue =>
    refine Leaves.mono ?_ ((skipSpace_suffix after).trans
      (readValue_leaves mode fuel value j after hvalue))
    split
    · next rest heq => exact heq ▸ .some (List.suffix_cons _ _)
    · next rest heq =>
      exact heq ▸ ((readMembers_leaves mode fuel rest).map ((String.ofList key, j) :: ·)).cons _
    · exact .none

end

end SyntheticLoad.Json
