import Mathlib.Data.List.Basic
import Mathlib.Data.Nat.Bitwise
import SyntheticLoad.Proofs.Field.Uuid
import SyntheticLoad.Random.Script

/-!
# What is left of the drawn bytes in an identifier

An identifier has 128 bits, of which six are fixed: four are the version and two the variant
(`fixedBit?`). The others are those of the drawn bytes (`bit_stampVersion`). The written form
reads back as the bytes with version and variant in them (`readIdentifier?_identifierText`), so
two draws have the same identifier exactly if their bytes agree in the 122 bits that are free
(`identifiers_keep_free_bits`).
-/

namespace SyntheticLoad

namespace Text

theorem hexValue?_hexDigit {d : Nat} (h : d < 16) : hexValue? (hexDigit d) = some d := by
  have hall : ∀ d < 16, hexValue? (hexDigit d) = some d := by decide
  exact hall d h

end Text

namespace Field

open SyntheticLoad.Random Text

/-! ### Reading -/

/-- The bytes that hexadecimal digits stand for, two digits for each. -/
def readBytes? : List Char → Option (List UInt8)
  | [] => some []
  | [_] => none
  | high :: low :: cs => do
    let h ← hexValue? high
    let l ← hexValue? low
    let bytes ← readBytes? cs
    pure (UInt8.ofNat (h * 16 + l) :: bytes)

/-- The bytes of the written form of an identifier. -/
def readIdentifier? (cs : List Char) : Option (List UInt8) := readBytes? (cs.filter (· ≠ '-'))

theorem readBytes?_hexBytes (bytes : List UInt8) : readBytes? (hexBytes bytes) = some bytes := by
  induction bytes with
  | nil => rfl
  | cons b bytes ih =>
    have hb : b.toNat / 16 < 16 := Nat.div_lt_of_lt_mul b.toNat_lt
    have hbyte : UInt8.ofNat (b.toNat / 16 * 16 + b.toNat % 16) = b := by
      rw [Nat.div_add_mod', UInt8.ofNat_toNat]
    rw [hexBytes, List.flatMap_cons, ← hexBytes, hexByte, List.cons_append, List.cons_append,
      List.nil_append, readBytes?, hexValue?_hexDigit hb,
      hexValue?_hexDigit (Nat.mod_lt _ (by decide)), ih]
    exact congrArg (fun b => some (b :: bytes)) hbyte

/-- There are no hyphens among hexadecimal digits. -/
theorem IsHexWord.not_hyphen {n : Nat} {cs : List Char} (h : IsHexWord n cs) :
    ∀ c ∈ cs, c ≠ '-' := by
  rintro c hc rfl
  exact absurd (h.2 _ hc) (by decide)

theorem filter_hexBytes (bytes : List UInt8) :
    (hexBytes bytes).filter (· ≠ '-') = hexBytes bytes :=
  List.filter_eq_self.2 fun c hc => decide_eq_true ((isHexWord_hexBytes rfl).not_hyphen c hc)

theorem filter_identifierText (bytes : Vector UInt8 16) :
    (identifierText bytes).filter (· ≠ '-') = hexBytes bytes.toList := by
  have hgroup : ∀ n, (bytes.toList.drop n).take 2 ++ bytes.toList.drop (n + 2) =
      bytes.toList.drop n := fun n => by rw [← List.drop_drop, List.take_append_drop]
  have hgroups : hexBytes bytes.toList = hexBytes (bytes.toList.take 4) ++
      (hexBytes ((bytes.toList.drop 4).take 2) ++ (hexBytes ((bytes.toList.drop 6).take 2) ++
        (hexBytes ((bytes.toList.drop 8).take 2) ++ hexBytes (bytes.toList.drop 10)))) := by
    simp only [hexBytes, ← List.flatMap_append]
    rw [hgroup, hgroup, hgroup, List.take_append_drop]
  have hhyphen : ∀ cs : List Char, ('-' :: cs).filter (· ≠ '-') = cs.filter (· ≠ '-') :=
    fun cs => List.filter_cons_of_neg (by decide)
  simp only [identifierText, List.append_assoc, List.cons_append, List.filter_append, hhyphen,
    filter_hexBytes]
  exact hgroups.symm

/-- The written form of bytes is read as these bytes. -/
theorem readIdentifier?_identifierText (bytes : Vector UInt8 16) :
    readIdentifier? (identifierText bytes) = some bytes.toList := by
  rw [readIdentifier?, filter_identifierText, readBytes?_hexBytes]

/-! ### Bits -/

/-- The bit of some bytes at a place, which is a byte and a bit of it, the least significant one
    being the first. -/
def bit (bytes : Vector UInt8 16) (place : Fin 16 × Fin 8) : Bool :=
  bytes[place.1].toNat.testBit place.2

/-- What a bit of an identifier is fixed to: the version is 4 in the high half of byte 6, and the
    variant is 2 in the top two bits of byte 8. -/
def fixedBit? (place : Fin 16 × Fin 8) : Option Bool :=
  if place.1.val = 6 ∧ 4 ≤ place.2.val then some (place.2.val = 6)
  else if place.1.val = 8 ∧ 6 ≤ place.2.val then some (place.2.val = 7)
  else none

/-- The places of the bits that are not fixed. -/
def freePlaces : List (Fin 16 × Fin 8) :=
  ((List.finRange 16).flatMap fun byte => (List.finRange 8).map fun place => (byte, place)).filter
    fun place => fixedBit? place = none

theorem length_freePlaces : freePlaces.length = 122 := by decide +kernel

theorem mem_freePlaces {place : Fin 16 × Fin 8} : place ∈ freePlaces ↔ fixedBit? place = none := by
  simp [freePlaces]

theorem testBit_version (b : UInt8) (place : Fin 8) :
    ((b &&& 0x0f) ||| 0x40).toNat.testBit place =
      if 4 ≤ place.val then decide (place.val = 6) else b.toNat.testBit place := by
  revert place
  revert b
  exact forall_byte (by decide +kernel)

theorem testBit_variant (b : UInt8) (place : Fin 8) :
    ((b &&& 0x3f) ||| 0x80).toNat.testBit place =
      if 6 ≤ place.val then decide (place.val = 7) else b.toNat.testBit place := by
  revert place
  revert b
  exact forall_byte (by decide +kernel)

theorem getElem_stampVersion (bytes : Vector UInt8 16) {i : Nat} (hi : i < 16) :
    (stampVersion bytes)[i] =
      if i = 6 then (bytes[6] &&& 0x0f) ||| 0x40
      else if i = 8 then (bytes[8] &&& 0x3f) ||| 0x80
      else bytes[i] := by
  rw [stampVersion, Vector.getElem_set, Vector.getElem_set]
  grind

/-- A bit is what it is fixed to, or else the bit that was drawn. -/
theorem bit_stampVersion (bytes : Vector UInt8 16) (place : Fin 16 × Fin 8) :
    bit (stampVersion bytes) place = (fixedBit? place).getD (bit bytes place) := by
  obtain ⟨⟨byte, hbyte⟩, place⟩ := place
  have hget := getElem_stampVersion bytes hbyte
  simp only [bit, fixedBit?, Fin.getElem_fin, hget]
  split
  · next hversion =>
    rw [testBit_version]
    by_cases hplace : 4 ≤ place.val <;> simp [hversion, hplace]
  split
  · next hvariant =>
    rw [testBit_variant]
    by_cases hplace : 6 ≤ place.val <;> simp [hvariant, hplace]
  · next hversion hvariant => simp [hversion, hvariant]

/-- Bytes are determined by their bits. -/
theorem eq_of_bit {a b : Vector UInt8 16} (h : ∀ place, bit a place = bit b place) : a = b := by
  refine Vector.ext fun i hi => UInt8.toNat_inj.1 (Nat.eq_of_testBit_eq fun k => ?_)
  rcases Nat.lt_or_ge k 8 with hk | hk
  · exact h (⟨i, hi⟩, ⟨k, hk⟩)
  · have hlt : ∀ byte : UInt8, byte.toNat < 2 ^ k := fun byte =>
      Nat.lt_of_lt_of_le byte.toNat_lt (Nat.pow_le_pow_right (by decide) hk)
    rw [Nat.testBit_lt_two_pow (hlt _), Nat.testBit_lt_two_pow (hlt _)]

/-- With version and variant put in, bytes are the same if they agree in what is free. -/
theorem stampVersion_eq_iff {a b : Vector UInt8 16} :
    stampVersion a = stampVersion b ↔ ∀ place ∈ freePlaces, bit a place = bit b place := by
  constructor
  · intro heq place hplace
    have hbit := congrArg (bit · place) heq
    simp only [bit_stampVersion, mem_freePlaces.1 hplace, Option.getD_none] at hbit
    exact hbit
  · intro hagree
    refine eq_of_bit fun place => ?_
    rw [bit_stampVersion, bit_stampVersion]
    cases hfixed : fixedBit? place with
    | none => exact hagree place (mem_freePlaces.2 hfixed)
    | some b => rfl

/-! ### Identifiers -/

theorem IsHexWord.idxsOf_hyphen {n : Nat} {cs : List Char} (h : IsHexWord n cs) (start : Nat) :
    cs.idxsOf '-' start = [] :=
  List.idxsOf_eq_nil_iff.2 fun c hc => beq_eq_false_iff_ne.2 (h.not_hyphen c hc)

/-- What stands at which place of an identifier. -/
theorem IsIdentifier.places {cs : List Char} (h : IsIdentifier cs) :
    cs.length = 36 ∧ cs.idxsOf '-' = [8, 13, 18, 23] ∧
      (∀ c ∈ cs, c ≠ '-' → c ∈ "0123456789abcdef".toList) ∧ cs[14]? = some '4' ∧
      ∃ variant ∈ ['8', '9', 'a', 'b'], cs[19]? = some variant := by
  obtain ⟨htime, hlow, hhigh, hvariant, hclock, hnode⟩ := h
  have hdigit : ∀ c ∈ ['8', '9', 'a', 'b'], c ≠ '-' ∧ c ∈ "0123456789abcdef".toList := by simp
  obtain ⟨hne, hmem⟩ := hdigit _ hvariant
  refine ⟨?_, ?_, ?_, ?_, _, hvariant, ?_⟩
  · simp [htime.1, hlow.1, hhigh.1, hclock.1, hnode.1]
  · simp [htime.1, hlow.1, hhigh.1, hclock.1, htime.idxsOf_hyphen, hlow.idxsOf_hyphen,
      hhigh.idxsOf_hyphen, hclock.idxsOf_hyphen, hnode.idxsOf_hyphen, hne]
  · intro c hc hhyphen
    simp only [List.mem_append, List.mem_cons, hhyphen, false_or] at hc
    rcases hc with ((((hc | hc) | rfl | hc) | rfl | hc) | hc)
    · exact htime.2 c hc
    · exact hlow.2 c hc
    · decide
    · exact hhigh.2 c hc
    · exact hmem
    · exact hclock.2 c hc
    · exact hnode.2 c hc
  · simp [List.getElem?_append, htime.1, hlow.1]
  · simp [List.getElem?_append, htime.1, hlow.1, hhigh.1]

theorem run_identifier {σ : Type} [WordSource σ] (s : σ) :
    ((identifier : Draw σ String).run s).1.toList =
      identifierText (stampVersion (bytes16.run s).1) :=
  String.toList_ofList

/-- **Identifiers keep all bits that are free.** Whatever sixteen bytes are drawn, an identifier
    has 36 characters: hyphens at four places and hexadecimal digits in lower case at the others,
    a 4 for the version, and one of four digits for the variant. It is read as sixteen bytes
    whose bits are those that were drawn, but for the six that are fixed. So two draws have the
    same identifier exactly if the bytes drawn agree in the other 122 bits. -/
theorem identifiers_keep_free_bits {σ τ : Type} [WordSource σ] [WordSource τ] (s : σ) (t : τ) :
    let bytes := (bytes16.run s).1
    let text := ((identifier : Draw σ String).run s).1
    (text.toList.length = 36 ∧ text.toList.idxsOf '-' = [8, 13, 18, 23] ∧
      (∀ c ∈ text.toList, c ≠ '-' → c ∈ "0123456789abcdef".toList) ∧
      text.toList[14]? = some '4' ∧
      ∃ variant ∈ ['8', '9', 'a', 'b'], text.toList[19]? = some variant) ∧
    (∃ read : Vector UInt8 16, readIdentifier? text.toList = some read.toList ∧
      ∀ place, bit read place = (fixedBit? place).getD (bit bytes place)) ∧
    freePlaces.length = 122 ∧
    (text = ((identifier : Draw τ String).run t).1 ↔
      ∀ place ∈ freePlaces, bit bytes place = bit (bytes16.run t).1 place) := by
  intro bytes text
  have htext : text.toList = identifierText (stampVersion bytes) := run_identifier s
  have hother := run_identifier t
  have hread : ∀ stamped, readIdentifier? (identifierText stamped) = some stamped.toList :=
    readIdentifier?_identifierText
  refine ⟨?_, ⟨stampVersion bytes, ?_, bit_stampVersion bytes⟩, length_freePlaces, ?_⟩
  · rw [htext]
    exact (isIdentifier_identifierText bytes).places
  · rw [htext, hread]
  · rw [← stampVersion_eq_iff, ← String.toList_inj, htext, hother]
    constructor
    · -- One text is read in one way only.
      intro heq
      have hlists := congrArg readIdentifier? heq
      rw [hread, hread] at hlists
      exact Vector.toList_inj.1 (Option.some.inj hlists)
    · intro heq
      rw [heq]

/-- Bytes that differ in fixed bits only, and bytes that differ in the last bit of the first
    byte. -/
theorem identifiers_keep_free_bits_of_stamps :
    let zeros := Script.ofList [0]
    let fixed := Script.ofList [0x00F0000000000000, 0xC0]
    let odd := Script.ofList [1, 0]
    (identifier.run zeros).1 = (identifier.run fixed).1 ∧
      (identifier.run zeros).1 ≠ (identifier.run odd).1 := by
  intro zeros fixed odd
  obtain ⟨-, -, -, hfixed⟩ := identifiers_keep_free_bits zeros fixed
  obtain ⟨-, -, -, hodd⟩ := identifiers_keep_free_bits zeros odd
  refine ⟨hfixed.2 (by decide +kernel), fun heq => ?_⟩
  exact absurd (hodd.1 heq (0, 0) (by decide)) (by decide)

end Field

end SyntheticLoad
