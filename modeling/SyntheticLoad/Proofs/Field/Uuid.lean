import SyntheticLoad.Field.Uuid
import SyntheticLoad.Proofs.Random.Always

/-!
# The form of identifiers

An identifier is written as 8, 4, 4, 4 and 12 hexadecimal digits in lower case, with hyphens
between the groups. The third group begins with the version, and the fourth with a digit whose
top two bits are the variant (`IsIdentifier`). Both are put into the bytes by `stampVersion`,
whatever bytes are drawn, so every random identifier has that form (`always_identifier`).
-/

namespace SyntheticLoad.Field

open SyntheticLoad.Random Text

/-- So many hexadecimal digits in lower case, and nothing else. -/
def IsHexWord (length : Nat) (cs : List Char) : Prop :=
  cs.length = length ∧ ∀ c ∈ cs, c ∈ "0123456789abcdef".toList

/-- The written form of an identifier of version 4. -/
inductive IsIdentifier : List Char → Prop
  | mk {time low high clock node : List Char} {variant : Char} :
    IsHexWord 8 time → IsHexWord 4 low → IsHexWord 3 high → variant ∈ ['8', '9', 'a', 'b'] →
    IsHexWord 3 clock → IsHexWord 12 node →
    IsIdentifier (time ++ '-' :: low ++ '-' :: '4' :: high ++ '-' :: variant :: clock ++
      '-' :: node)

/-! ### Bytes -/

theorem hexDigit_mem {d : Nat} (h : d < 16) : hexDigit d ∈ "0123456789abcdef".toList := by
  have hall : ∀ d < 16, hexDigit d ∈ "0123456789abcdef".toList := by decide
  exact hall d h

/-- Bytes are written as two digits each. -/
theorem isHexWord_hexBytes {bytes : List UInt8} {n : Nat} (h : 2 * bytes.length = n) :
    IsHexWord n (hexBytes bytes) := by
  subst h
  induction bytes with
  | nil => exact ⟨rfl, by simp [hexBytes]⟩
  | cons b bytes ih =>
    have hb : b.toNat < 256 := b.toNat_lt
    obtain ⟨hlength, hmem⟩ := ih
    simp only [hexBytes] at hlength hmem
    simp only [hexBytes, List.flatMap_cons, hexByte]
    refine ⟨by simp [hlength]; omega, fun c hc => ?_⟩
    simp only [List.cons_append, List.nil_append, List.mem_cons] at hc
    rcases hc with rfl | rfl | hc
    · exact hexDigit_mem (by omega)
    · exact hexDigit_mem (Nat.mod_lt _ (by decide))
    · exact hmem c hc

theorem IsHexWord.tail {c : Char} {cs : List Char} {n : Nat} (h : IsHexWord (n + 1) (c :: cs)) :
    IsHexWord n cs :=
  ⟨Nat.succ.inj h.1, fun d hd => h.2 d (List.mem_cons_of_mem c hd)⟩

/-- What holds of the numbers below 256 holds of all bytes. -/
theorem forall_byte {P : UInt8 → Prop} (h : ∀ n < 256, P (UInt8.ofNat n)) (b : UInt8) : P b := by
  have hb := h b.toNat b.toNat_lt
  rwa [UInt8.ofNat_toNat] at hb

/-- The version is the upper digit of its byte. -/
theorem stamped_version (b : UInt8) : hexDigit (((b &&& 0x0f) ||| 0x40).toNat / 16) = '4' := by
  revert b
  exact forall_byte (by decide +kernel)

/-- The variant leaves two bits of the upper digit of its byte. -/
theorem stamped_variant (b : UInt8) :
    hexDigit (((b &&& 0x3f) ||| 0x80).toNat / 16) ∈ ['8', '9', 'a', 'b'] := by
  revert b
  exact forall_byte (by decide +kernel)

/-! ### Identifiers -/

/-- A group of two bytes begins with the upper digit of the first one. -/
theorem hexBytes_take_drop {bytes : List UInt8} {n : Nat} {b : UInt8} (hb : bytes[n]? = some b)
    (hn : n + 1 < bytes.length) :
    ∃ cs, hexBytes ((bytes.drop n).take 2) = hexDigit (b.toNat / 16) :: cs ∧ IsHexWord 3 cs := by
  obtain ⟨hlt, rfl⟩ := List.getElem?_eq_some_iff.1 hb
  rw [List.drop_eq_getElem_cons hlt, List.drop_eq_getElem_cons hn]
  have hword : IsHexWord 4 (hexBytes [bytes[n], bytes[n + 1]]) := isHexWord_hexBytes rfl
  exact ⟨hexDigit (bytes[n].toNat % 16) :: hexByte bytes[n + 1], rfl, hword.tail⟩

theorem isIdentifier_identifierText (bytes : Vector UInt8 16) :
    IsIdentifier (identifierText (stampVersion bytes)) := by
  have hlength : (stampVersion bytes).toList.length = 16 := Vector.length_toList
  have hversion : (stampVersion bytes).toList[6]? = some ((bytes[6] &&& 0x0f) ||| 0x40) := by
    simp [stampVersion]
  have hvariant : (stampVersion bytes).toList[8]? = some ((bytes[8] &&& 0x3f) ||| 0x80) := by
    simp [stampVersion]
  obtain ⟨high, hhigh, hhighWord⟩ := hexBytes_take_drop hversion (by omega)
  obtain ⟨clock, hclock, hclockWord⟩ := hexBytes_take_drop hvariant (by omega)
  simp only [identifierText, hhigh, hclock, stamped_version]
  refine .mk (isHexWord_hexBytes ?_) (isHexWord_hexBytes ?_) hhighWord (stamped_variant _)
    hclockWord (isHexWord_hexBytes ?_)
  all_goals simp [hlength]

theorem always_identifier {σ : Type} [WordSource σ] :
    Draw.Always (identifier : Draw σ String) fun s => IsIdentifier s.toList :=
  Draw.always_bind (P := fun _ => True) (fun _ => trivial) fun bytes _ =>
    Draw.always_pure (by
      rw [String.toList_ofList]
      exact isIdentifier_identifierText bytes)

end SyntheticLoad.Field
