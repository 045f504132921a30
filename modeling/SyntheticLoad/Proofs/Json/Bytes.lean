import SyntheticLoad.Proofs.Json.Printing
import SyntheticLoad.Proofs.Text.Utf8

/-!
# Documents as bytes

All that a document consists of besides its strings is written in ASCII. When each byte of its
text is taken for a character, it is still the text of a document, with other characters in its
strings (`Document.byteChars`).

Whatever the reader reads, it can also pass over, and comes to the same end
(`readValue_skipping`): what it lets pass then is only more.
-/

namespace SyntheticLoad.Json

open Text

/-! ### Strings -/

theorem StringText.append {cs ds ws xs : List Char} (h : StringText cs ws)
    (h' : StringText ds xs) : StringText (cs ++ ds) (ws ++ xs) := by
  induction h with
  | nil => exact h'
  | cons hc _ ih =>
    rw [List.append_assoc]
    exact .cons hc ih

/-- Characters beyond ASCII stand for themselves. -/
theorem stringText_self {cs : List Char} (h : ∀ c ∈ cs, 128 ≤ c.toNat) : StringText cs cs := by
  induction cs with
  | nil => exact .nil
  | cons c cs ih =>
    obtain ⟨hc, hcs⟩ := List.forall_mem_cons.1 h
    have hplain : CharText c [c] := by
      refine .plain (Nat.le_trans (by decide) hc) ?_ ?_ <;> rintro rfl <;> revert hc <;> decide
    exact .cons hplain (ih hcs)

theorem hexValue?_ascii {c : Char} {n : Nat} (h : hexValue? c = some n) : c.toNat < 128 := by
  have hlt : ∀ {d : Char}, c ≤ d → d.toNat < 128 → c.toNat < 128 := fun hle hd =>
    Nat.lt_of_le_of_lt (UInt32.le_iff_toNat_le.1 hle) hd
  rw [hexValue?] at h
  split at h
  · next hrange => exact hlt hrange.2 (by decide)
  split at h
  · next hrange => exact hlt hrange.2 (by decide)
  split at h
  · next hrange => exact hlt hrange.2 (by decide)
  · cases h

theorem unitEscape_ascii {a b c d : Char} {n : Nat} (h : hexQuad? a b c d = some n) :
    ∀ x ∈ ['\\', 'u', a, b, c, d], x.toNat < 128 := by
  simp only [hexQuad?, Option.bind_eq_bind, Option.bind_eq_some_iff] at h
  obtain ⟨_, ha, _, hb, _, hc, _, hd, -⟩ := h
  simp only [List.forall_mem_cons, List.not_mem_nil, false_implies, implies_true, and_true]
  exact ⟨by decide, by decide, hexValue?_ascii ha, hexValue?_ascii hb, hexValue?_ascii hc,
    hexValue?_ascii hd⟩

theorem letterEscape_ascii {e c : Char} (h : letterEscape? e = some c) :
    ∀ x ∈ ['\\', e], x.toNat < 128 := by
  refine List.forall_mem_cons.2 ⟨by decide, List.forall_mem_singleton.2 ?_⟩
  rw [letterEscape?.eq_def] at h
  split at h
  case h_9 => cases h
  all_goals decide

/-- The bytes of a character's text are the text of some characters. -/
theorem CharText.byteChars {c : Char} {w : List Char} (h : CharText c w) :
    ∃ cs, StringText cs (byteChars w) := by
  have hself : ∀ {c w}, CharText c w → (∀ x ∈ w, x.toNat < 128) →
      ∃ cs, StringText cs (Text.byteChars w) := by
    intro c w h hascii
    rw [byteChars_ascii hascii, ← List.append_nil w]
    exact ⟨[c], .cons h .nil⟩
  cases h with
  | plain hc hquote hslash =>
    rcases Nat.lt_or_ge c.toNat 128 with hlt | hge
    · exact hself (.plain hc hquote hslash) (List.forall_mem_singleton.2 hlt)
    · exact ⟨_, stringText_self (le_of_mem_byteChars hge)⟩
  | letter he => exact hself (.letter he) (letterEscape_ascii he)
  | unit hn hhigh hlow => exact hself (.unit hn hhigh hlow) (unitEscape_ascii hn)
  | pair hn hhigh hm hlow =>
    exact hself (.pair hn hhigh hm hlow)
      (List.forall_mem_append.2 ⟨unitEscape_ascii hn, unitEscape_ascii hm⟩)

theorem StringText.byteChars {cs body : List Char} (h : StringText cs body) :
    ∃ ds, StringText ds (byteChars body) := by
  induction h with
  | nil => exact ⟨[], .nil⟩
  | cons hc _ ih =>
    obtain ⟨ds, hds⟩ := hc.byteChars
    obtain ⟨es, hes⟩ := ih
    rw [byteChars_append]
    exact ⟨ds ++ es, hds.append hes⟩

/-! ### Documents -/

theorem Blanks.byteChars {b : List Char} (h : Blanks b) : byteChars b = b :=
  byteChars_ascii fun c hc => by rcases h c hc with rfl | rfl | rfl | rfl <;> decide

theorem NumberText.byteChars {token : List Char} (h : NumberText token) :
    byteChars token = token := by
  refine byteChars_ascii (h.forall_mem (fun c hc => ?_) (by simp))
  exact Nat.lt_of_le_of_lt (Char.isDigit_iff_toNat.1 hc).2 (by decide)

mutual

theorem ValueText.byteChars : ∀ {j : Json} {v : List Char}, ValueText j v →
    ∃ j', ValueText j' (byteChars v)
  | _, _, .null => ⟨_, .null⟩
  | _, _, .yes => ⟨_, .yes⟩
  | _, _, .no => ⟨_, .no⟩
  | _, _, .number h => by
    rw [h.byteChars]
    exact ⟨_, .number h⟩
  | _, _, .text h => by
    obtain ⟨cs, hcs⟩ := h.byteChars
    rw [byteChars_cons (by decide), byteChars_append]
    exact ⟨_, .text hcs⟩
  | _, _, .emptyArray hb => by
    rw [byteChars_cons (by decide), byteChars_append, hb.byteChars]
    exact ⟨_, .emptyArray hb⟩
  | _, _, .array h => by
    obtain ⟨js, hjs⟩ := h.byteChars
    rw [byteChars_cons (by decide), byteChars_append]
    exact ⟨_, .array hjs⟩
  | _, _, .emptyObject hb => by
    rw [byteChars_cons (by decide), byteChars_append, hb.byteChars]
    exact ⟨_, .emptyObject hb⟩
  | _, _, .object h => by
    obtain ⟨ms, hms⟩ := h.byteChars
    rw [byteChars_cons (by decide), byteChars_append]
    exact ⟨_, .object hms⟩

theorem Document.byteChars : ∀ {j : Json} {w : List Char}, Document j w →
    ∃ j', Document j' (byteChars w)
  | _, _, .mk hbefore h hafter => by
    obtain ⟨j', hj'⟩ := h.byteChars
    rw [byteChars_append, byteChars_append, hbefore.byteChars, hafter.byteChars]
    exact ⟨j', .mk hbefore hj' hafter⟩

theorem ItemsText.byteChars : ∀ {js : List Json} {ws : List Char}, ItemsText js ws →
    ∃ js', ItemsText js' (byteChars ws)
  | _, _, .last h => by
    obtain ⟨j', hj'⟩ := h.byteChars
    exact ⟨_, .last hj'⟩
  | _, _, .more h hs => by
    obtain ⟨j', hj'⟩ := h.byteChars
    obtain ⟨js', hjs'⟩ := hs.byteChars
    rw [byteChars_append, byteChars_cons (by decide)]
    exact ⟨_, .more hj' hjs'⟩

theorem MemberText.byteChars : ∀ {m : String × Json} {w : List Char}, MemberText m w →
    ∃ m', MemberText m' (byteChars w)
  | _, _, .mk hbefore hkey hafter h => by
    obtain ⟨key, hkey'⟩ := hkey.byteChars
    obtain ⟨j', hj'⟩ := h.byteChars
    rw [byteChars_append, byteChars_cons (by decide), byteChars_append, byteChars_cons (by decide),
      byteChars_append, byteChars_cons (by decide), hbefore.byteChars, hafter.byteChars]
    exact ⟨_, .mk hbefore hkey' hafter hj'⟩

theorem MembersText.byteChars : ∀ {ms : List (String × Json)} {ws : List Char},
    MembersText ms ws → ∃ ms', MembersText ms' (byteChars ws)
  | _, _, .last h => by
    obtain ⟨m', hm'⟩ := h.byteChars
    exact ⟨_, .last hm'⟩
  | _, _, .more h hs => by
    obtain ⟨m', hm'⟩ := h.byteChars
    obtain ⟨ms', hms'⟩ := hs.byteChars
    rw [byteChars_append, byteChars_cons (by decide)]
    exact ⟨_, .more hm' hms'⟩

end

/-! ### Passing over -/

section

variable {α β γ δ : Type}

/-- Where one way of reading comes to an end, another one does too. -/
def EndsAlike (r : Option (α × List Char)) (r' : Option (β × List Char)) : Prop :=
  ∀ a rest, r = some (a, rest) → ∃ b, r' = some (b, rest)

theorem EndsAlike.refl (r : Option (α × List Char)) : EndsAlike r r := fun a _ h => ⟨a, h⟩

theorem EndsAlike.none (r : Option (β × List Char)) :
    EndsAlike (none : Option (α × List Char)) r := by
  rintro _ _ ⟨⟩

section

variable {r : Option (α × List Char)} {r' : Option (β × List Char)} (h : EndsAlike r r')

include h

theorem EndsAlike.map_right (g : β → δ) :
    EndsAlike r (r'.map fun (b, rest) => (g b, rest)) := by
  intro a rest ha
  obtain ⟨b, hb⟩ := h a rest ha
  exact ⟨g b, by rw [hb]; rfl⟩

/-- What is made of what was read does not matter. -/
theorem EndsAlike.map (f : α → γ) (g : β → δ) :
    EndsAlike (r.map fun (a, rest) => (f a, rest)) (r'.map fun (b, rest) => (g b, rest)) := by
  intro _ rest hr
  obtain ⟨⟨a, _⟩, ha, heq⟩ := Option.map_eq_some_iff.1 hr
  cases heq
  exact h.map_right g a rest ha

end

end

/-- A literal that can be read can be passed over. -/
theorem readLiteral_skipping (cs : List Char) :
    EndsAlike (readLiteral .keeping cs) (readLiteral .skipping cs) := by
  fun_induction readLiteral .keeping cs with
  | case2 rest =>
    rw [readLiteral]
    exact .refl _
  | case7 a b c d n hn _ _ _ a' b' c' d' rest m hm _ ih =>
    -- The two halves of a pair are passed over one after the other.
    simp only [readLiteral, hn, hm, if_true]
    exact (ih.map _ _).map_right _
  | case10 a b c d rest n hn _ _ _ ih =>
    simp only [readLiteral, hn, if_true]
    exact ih.map _ _
  | case12 e rest hunit c he ih =>
    rw [readLiteral, he]
    · exact ih.map _ _
    · exact hunit
  | case14 c rest hquote hunit hescape hplain ih =>
    rw [readLiteral, if_neg hplain]
    · exact ih.map _ _
    · exact hquote
    · exact hunit
    · exact hescape
  | case4 => contradiction
  | _ => exact .none _

-- A step of the one reader is a step of the other, so both have the same number of steps.
mutual

/-- A value that can be read can be passed over. -/
theorem readValue_skipping : ∀ (fuel : Nat) (cs : List Char),
    EndsAlike (readValue .keeping fuel cs) (readValue .skipping fuel cs)
  | 0, cs => by
    rw [readValue]
    exact .none _
  | fuel + 1, cs => by
    rw [readValue, readValue]
    generalize skipSpace cs = t
    split
    · exact .refl _
    · exact .refl _
    · exact .refl _
    · exact (readLiteral_skipping _).map (fun s => text (String.ofList s))
        fun s => text (String.ofList s)
    · next rest =>
      generalize skipSpace rest = t
      split
      · exact .refl _
      · exact (readItems_skipping fuel _).map _ _
    · next rest =>
      generalize skipSpace rest = t
      split
      · exact .refl _
      · exact (readMembers_skipping fuel _).map _ _
    · exact .refl _

theorem readItems_skipping : ∀ (fuel : Nat) (cs : List Char),
    EndsAlike (readItems .keeping fuel cs) (readItems .skipping fuel cs)
  | 0, cs => by
    rw [readItems]
    exact .none _
  | fuel + 1, cs => by
    intro js rest h
    rw [readItems] at h ⊢
    split at h
    · cases h
    next item after hitem =>
    obtain ⟨item', hitem'⟩ := readValue_skipping fuel cs item after hitem
    simp only [hitem']
    generalize skipSpace after = t at h ⊢
    split at h
    · cases h
      exact ⟨_, rfl⟩
    · exact (readItems_skipping fuel _).map _ _ _ _ h
    · cases h

theorem readMembers_skipping : ∀ (fuel : Nat) (cs : List Char),
    EndsAlike (readMembers .keeping fuel cs) (readMembers .skipping fuel cs)
  | 0, cs => by
    rw [readMembers]
    exact .none _
  | fuel + 1, cs => by
    intro ms rest h
    rw [readMembers] at h ⊢
    generalize skipSpace cs = t at h ⊢
    split at h
    case h_2 => cases h
    split at h
    · cases h
    next key after hkey =>
    obtain ⟨key', hkey'⟩ := readLiteral_skipping _ key after hkey
    simp only [hkey']
    generalize skipSpace after = u at h ⊢
    split at h
    case h_2 => cases h
    split at h
    · cases h
    next value after' hvalue =>
    obtain ⟨value', hvalue'⟩ := readValue_skipping fuel _ value after' hvalue
    simp only [hvalue']
    generalize skipSpace after' = v at h ⊢
    split at h
    · cases h
      exact ⟨_, rfl⟩
    · exact (readMembers_skipping fuel _).map _ _ _ _ h
    · cases h

end

end SyntheticLoad.Json
