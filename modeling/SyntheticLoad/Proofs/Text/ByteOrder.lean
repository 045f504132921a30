/-!
# The order of texts and of their bytes

Texts are compared by the numbers of their characters, from the first one on. Comparing their
bytes instead comes to the same (`utf8_lt_utf8`): the bytes of the smaller of two characters are
smaller at the first place where the bytes of the two differ (`encode_lt_encode`), and
neither goes on where the other one ends.
-/

namespace SyntheticLoad.Text

/-- The bytes of a text. -/
def utf8 (s : String) : List UInt8 := s.toUTF8.data.toList

theorem utf8_eq (s : String) : utf8 s = s.toList.flatMap String.utf8EncodeChar := by
  have h : (String.ofList s.toList).toByteArray = s.toList.utf8Encode := String.toByteArray_ofList
  rw [String.ofList_toList] at h
  rw [utf8, String.toUTF8, h, List.utf8Encode, List.data_toByteArray]

/-- A text is determined by its bytes. -/
theorem utf8_injective {s t : String} (h : utf8 s = utf8 t) : s = t := by
  refine String.toByteArray_inj.1 (ByteArray.ext (Array.toList_inj.1 ?_))
  exact h

theorem byte_cons_lt_iff {m n : Nat} (hm : m < 256) (hn : n < 256) {xs ys : List UInt8} :
    UInt8.ofNat m :: xs < UInt8.ofNat n :: ys ↔ m < n ∨ m = n ∧ xs < ys := by
  rw [List.cons_lt_cons_iff, UInt8.ofNat_lt_iff_lt hm hn, ← UInt8.toNat_inj, UInt8.toNat_ofNat',
    UInt8.toNat_ofNat', Nat.mod_eq_of_lt hm, Nat.mod_eq_of_lt hn]

/-- Of two characters the smaller one has the smaller bytes, whatever follows them. -/
theorem encode_lt_encode {c d : Char} (h : c < d) (xs ys : List UInt8) :
    String.utf8EncodeChar c ++ xs < String.utf8EncodeChar d ++ ys := by
  have hlt : c.val.toNat < d.val.toNat := UInt32.lt_iff_toNat_lt.1 h
  have hd : d.val.toNat < 0x110000 := by
    have hvalid := d.valid
    simp only [UInt32.isValidChar, Nat.isValidChar] at hvalid
    omega
  have hdiv : ∀ k : Nat, k / 4096 = k / 64 / 64 ∧ k / 262144 = k / 64 / 64 / 64 := by omega
  simp only [String.utf8EncodeChar, (hdiv _).1, (hdiv _).2]
  generalize c.val.toNat = m at *
  generalize d.val.toNat = n at *
  -- The numbers of bytes are told apart; with more of them the first one is greater.
  repeat' split
  all_goals
    simp (disch := omega) only [List.cons_append, List.nil_append, byte_cons_lt_iff]
    omega

theorem encode_ne_nil (c : Char) : String.utf8EncodeChar c ≠ [] := by
  simp only [String.utf8EncodeChar]
  repeat' split
  all_goals exact List.cons_ne_nil _ _

theorem append_lt_append (p : List UInt8) {xs ys : List UInt8} (h : xs < ys) :
    p ++ xs < p ++ ys := by
  induction p with
  | nil => exact h
  | cons b p ih => exact List.cons_lt_cons_iff.2 (.inr ⟨rfl, ih⟩)

/-- The bytes of the smaller text are smaller. -/
theorem utf8_lt_utf8 {s t : String} (h : s < t) : utf8 s < utf8 t := by
  have hchars : ∀ cs ds : List Char, cs < ds →
      cs.flatMap String.utf8EncodeChar < ds.flatMap String.utf8EncodeChar := by
    intro cs
    induction cs with
    | nil =>
      intro ds hlt
      cases ds with
      | nil => exact absurd hlt (List.lt_irrefl _)
      | cons d ds =>
        obtain ⟨b, bs, hbs⟩ := List.exists_cons_of_ne_nil (encode_ne_nil d)
        rw [List.flatMap_nil, List.flatMap_cons, hbs]
        exact List.nil_lt_cons b _
    | cons c cs ih =>
      intro ds hlt
      cases ds with
      | nil => exact absurd hlt (List.not_lt_nil _)
      | cons d ds =>
        rw [List.flatMap_cons, List.flatMap_cons]
        rcases List.cons_lt_cons_iff.1 hlt with hchar | ⟨rfl, hrest⟩
        · exact encode_lt_encode hchar _ _
        · exact append_lt_append _ (ih ds hrest)
  rw [utf8_eq, utf8_eq]
  exact hchars s.toList t.toList h

end SyntheticLoad.Text
