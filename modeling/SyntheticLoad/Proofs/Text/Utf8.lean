import SyntheticLoad.Proofs.Text.Ascii
import SyntheticLoad.Proofs.Text.ByteOrder
import SyntheticLoad.Text.Utf8

/-!
# Bytes of texts are read back

The bytes of a character are read as that character, whatever stands behind them
(`decode_encode`), so that the bytes of a text are read as the text, and nothing is put in the
place of anything (`textOf?_utf8`, `lossyText_utf8`).

Bytes may also be taken for characters, each for the one of the same number (`byteChars`). The
characters of ASCII are their own bytes (`byteChars_cons`), and no byte of any other character
is one of them (`le_of_mem_byteChars`).
-/

namespace SyntheticLoad.Text

theorem firstByte?_ofNat {n : Nat} (hn : n < 256) : firstByte? (UInt8.ofNat n) =
    if n < 0x80 then some (n, [])
    else if n < 0xC2 then none
    else if n < 0xE0 then some (n - 0xC0, [anyNext])
    else if n = 0xE0 then some (n - 0xE0, [(0xA0, 0xBF), anyNext])
    else if n = 0xED then some (n - 0xE0, [(0x80, 0x9F), anyNext])
    else if n < 0xF0 then some (n - 0xE0, [anyNext, anyNext])
    else if n = 0xF0 then some (n - 0xF0, [(0x90, 0xBF), anyNext, anyNext])
    else if n < 0xF4 then some (n - 0xF0, [anyNext, anyNext, anyNext])
    else if n = 0xF4 then some (n - 0xF0, [(0x80, 0x8F), anyNext, anyNext])
    else none := by
  simp only [firstByte?, UInt8.lt_iff_toNat_lt, ← UInt8.toNat_inj, UInt8.toNat_ofNat',
    Nat.mod_eq_of_lt hn]
  rfl

section

variable {value n m : Nat} {next : UInt8 × UInt8} {later : List (UInt8 × UInt8)}
  {bytes : List UInt8}

/-- A first byte with others to come begins a character. -/
theorem decode_first (h : firstByte? (UInt8.ofNat n) = some (value, next :: later)) :
    decode none (UInt8.ofNat n :: bytes) = decode (some ⟨value, next, later⟩) bytes := by
  rw [decode, readByte, readFirst, h]
  rfl

/-- Whether a number is in the range of a byte. -/
def InRange (range : UInt8 × UInt8) (n : Nat) : Prop := range.1.toNat ≤ n ∧ n ≤ range.2.toNat

theorem readByte_next (h : InRange next n) :
    readByte (some ⟨value, next, later⟩) (UInt8.ofNat n) = goOn (value * 64 + (n - 128)) later := by
  have hn : n < 256 := Nat.lt_of_le_of_lt h.2 next.2.toNat_lt
  have hbyte : (UInt8.ofNat n).toNat = n := UInt8.toNat_ofNat_of_lt' hn
  rw [readByte, if_pos ⟨UInt8.le_iff_toNat_le.2 (hbyte.symm ▸ h.1),
    UInt8.le_iff_toNat_le.2 (hbyte.symm ▸ h.2)⟩, hbyte]

theorem decode_next (h : InRange next n) {after : UInt8 × UInt8} :
    decode (some ⟨value, next, after :: later⟩) (UInt8.ofNat n :: bytes) =
      decode (some ⟨value * 64 + (n - 128), after, later⟩) bytes := by
  rw [decode, readByte_next h]
  rfl

theorem decode_last (h : InRange next n) (hm : value * 64 + (n - 128) = m) :
    decode (some ⟨value, next, []⟩) (UInt8.ofNat n :: bytes) =
      some (Char.ofNat m) :: decode none bytes := by
  rw [decode, readByte_next h, hm]
  rfl

end

theorem inRange_anyNext {n : Nat} (h : 128 ≤ n) (h' : n < 192) : InRange anyNext n :=
  ⟨h, Nat.le_of_lt_succ h'⟩

/-- The bytes of a character are read as that character. -/
theorem decode_encode (c : Char) (bytes : List UInt8) :
    decode none (String.utf8EncodeChar c ++ bytes) = some c :: decode none bytes := by
  have hc : Char.ofNat c.val.toNat = c := Char.ofNat_toNat c
  have hvalid : c.val.toNat < 0xD800 ∨ 0xDFFF < c.val.toNat ∧ c.val.toNat < 0x110000 := c.valid
  simp only [String.utf8EncodeChar]
  generalize c.val.toNat = n at *
  subst hc
  have h4096 : n / 4096 = n / 64 / 64 := by omega
  have h262144 : n / 262144 = n / 64 / 64 / 64 := by omega
  split
  · -- One byte.
    rw [List.singleton_append, decode, readByte, readFirst, firstByte?_ofNat (by omega),
      if_pos (by omega)]
    rfl
  split
  · -- Two bytes.
    have hfirst : firstByte? (UInt8.ofNat (n / 64 % 32 + 192)) = some (n / 64, [anyNext]) := by
      rw [firstByte?_ofNat (by omega), if_neg (by omega), if_neg (by omega), if_pos (by omega),
        show n / 64 % 32 + 192 - 0xC0 = n / 64 by omega]
    rw [List.cons_append, List.singleton_append, decode_first hfirst,
      decode_last (inRange_anyNext (by omega) (by omega)) (m := n) (by omega)]
  split
  · -- Three bytes. The second one is in a narrower range behind two of the first ones.
    obtain ⟨next, hfirst, hnext⟩ : ∃ next, firstByte? (UInt8.ofNat (n / 4096 % 16 + 224)) =
        some (n / 4096, [next, anyNext]) ∧ InRange next (n / 64 % 64 + 128) := by
      have hvalue : n / 4096 % 16 + 224 - 0xE0 = n / 4096 := by omega
      rw [firstByte?_ofNat (by omega), if_neg (by omega), if_neg (by omega), if_neg (by omega),
        hvalue]
      split
      · exact ⟨_, rfl, by change 160 ≤ _; omega, by change _ ≤ 191; omega⟩
      split
      · exact ⟨_, rfl, by change 128 ≤ _; omega, by change _ ≤ 159; omega⟩
      · rw [if_pos (by omega)]
        exact ⟨_, rfl, inRange_anyNext (by omega) (by omega)⟩
    rw [List.cons_append, List.cons_append, List.singleton_append, decode_first hfirst,
      decode_next hnext, decode_last (inRange_anyNext (by omega) (by omega)) (m := n) (by omega)]
  · -- Four bytes, in the same way.
    obtain ⟨next, hfirst, hnext⟩ : ∃ next, firstByte? (UInt8.ofNat (n / 262144 % 8 + 240)) =
        some (n / 262144, [next, anyNext, anyNext]) ∧ InRange next (n / 4096 % 64 + 128) := by
      have hvalue : n / 262144 % 8 + 240 - 0xF0 = n / 262144 := by omega
      rw [firstByte?_ofNat (by omega), if_neg (by omega), if_neg (by omega), if_neg (by omega),
        if_neg (by omega), if_neg (by omega), if_neg (by omega), hvalue]
      split
      · exact ⟨_, rfl, by change 144 ≤ _; omega, by change _ ≤ 191; omega⟩
      split
      · exact ⟨_, rfl, inRange_anyNext (by omega) (by omega)⟩
      · rw [if_pos (by omega)]
        exact ⟨_, rfl, by change 128 ≤ _; omega, by change _ ≤ 143; omega⟩
    rw [List.cons_append, List.cons_append, List.cons_append, List.singleton_append,
      decode_first hfirst, decode_next hnext,
      decode_next (inRange_anyNext (by omega) (by omega)),
      decode_last (inRange_anyNext (by omega) (by omega)) (m := n) (by omega)]

theorem decode_utf8 (s : String) : decode none (utf8 s) = s.toList.map some := by
  rw [utf8_eq]
  induction s.toList with
  | nil => rfl
  | cons c cs ih => rw [List.flatMap_cons, decode_encode, ih, List.map_cons]

/-- The bytes of a text are text. -/
theorem textOf?_utf8 (s : String) : textOf? (utf8 s) = some s.toList := by
  rw [textOf?, decode_utf8]
  induction s.toList with
  | nil => rfl
  | cons c cs ih =>
    rw [List.map_cons, List.mapM_cons, ih]
    rfl

/-- Nothing of a text is broken. -/
theorem lossyText_utf8 (s : String) : lossyText (utf8 s) = s := by
  rw [lossyText, decode_utf8, List.map_map]
  exact (congrArg String.ofList (List.map_id _)).trans String.ofList_toList

/-! ### Bytes as characters -/

/-- The bytes of a text, each as the character of the same number. -/
def byteChars (cs : List Char) : List Char := (cs.flatMap String.utf8EncodeChar).map byteChar

theorem map_byteChar_utf8 (s : String) : (utf8 s).map byteChar = byteChars s.toList := by
  rw [utf8_eq]
  rfl

theorem toNat_byteChar (b : UInt8) : (byteChar b).toNat = b.toNat := by
  have hall : ∀ n < 256, (Char.ofNat n).toNat = n := by decide +kernel
  exact hall b.toNat b.toNat_lt

theorem byteChars_append (cs ds : List Char) :
    byteChars (cs ++ ds) = byteChars cs ++ byteChars ds := by
  rw [byteChars, List.flatMap_append, List.map_append]
  rfl

/-- A character of ASCII is its own byte. -/
theorem byteChars_cons {c : Char} (h : c.toNat < 128) (cs : List Char) :
    byteChars (c :: cs) = c :: byteChars cs := by
  have hself : byteChars [c] = [c] :=
    of_toNat_lt (P := fun c => byteChars [c] = [c]) (by decide) h
  rw [← List.singleton_append, byteChars_append, hself]
  rfl

theorem byteChars_ascii {cs : List Char} (h : ∀ c ∈ cs, c.toNat < 128) : byteChars cs = cs := by
  induction cs with
  | nil => rfl
  | cons c cs ih =>
    obtain ⟨hc, hcs⟩ := List.forall_mem_cons.1 h
    rw [byteChars_cons hc, ih hcs]

/-- No byte of any other character is one of ASCII. -/
theorem le_of_mem_byteChars {c : Char} (h : 128 ≤ c.toNat) :
    ∀ d ∈ byteChars [c], 128 ≤ d.toNat := by
  change 128 ≤ c.val.toNat at h
  simp only [byteChars, List.flatMap_singleton, String.utf8EncodeChar, List.forall_mem_map,
    toNat_byteChar]
  generalize c.val.toNat = n at *
  repeat' split
  all_goals
    simp only [List.forall_mem_cons, List.not_mem_nil, false_implies, implies_true, and_true,
      UInt8.toNat_ofNat']
    omega

theorem textOf?_byteChars (cs : List Char) :
    textOf? ((byteChars cs).map fun c => UInt8.ofNat c.toNat) = some cs := by
  have hback : (fun c => UInt8.ofNat c.toNat) ∘ byteChar = id := by
    funext b
    exact (congrArg UInt8.ofNat (toNat_byteChar b)).trans UInt8.ofNat_toNat
  have htext := textOf?_utf8 (String.ofList cs)
  rw [utf8_eq, String.toList_ofList] at htext
  rw [byteChars, List.map_map, hback, List.map_id]
  exact htext

end SyntheticLoad.Text
