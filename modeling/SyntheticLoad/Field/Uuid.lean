import SyntheticLoad.Random.Source
import SyntheticLoad.Text.Hex

/-!
# Random identifiers

An identifier is sixteen random bytes of which six bits are fixed: the version, 4,
in the high half of byte 6, and the variant in the top two bits of byte 8. It is
written as 32 hexadecimal digits in groups of 8, 4, 4, 4 and 12.
-/

namespace SyntheticLoad.Field

open SyntheticLoad.Random Text

/-- Sixteen bytes with version and variant put in. -/
def stampVersion (bytes : Vector UInt8 16) : Vector UInt8 16 :=
  (bytes.set 6 ((bytes[6] &&& 0x0f) ||| 0x40)).set 8 ((bytes[8] &&& 0x3f) ||| 0x80)

/-- The hexadecimal digits of some bytes. -/
def hexBytes (bytes : List UInt8) : List Char := bytes.flatMap hexByte

/-- The written form of sixteen bytes. -/
def identifierText (bytes : Vector UInt8 16) : List Char :=
  let bs := bytes.toList
  hexBytes (bs.take 4) ++ '-' :: hexBytes ((bs.drop 4).take 2) ++
    '-' :: hexBytes ((bs.drop 6).take 2) ++ '-' :: hexBytes ((bs.drop 8).take 2) ++
    '-' :: hexBytes (bs.drop 10)

/-- A random identifier. -/
def identifier {σ : Type} [WordSource σ] : Draw σ String := do
  let bytes ← bytes16
  pure (String.ofList (identifierText (stampVersion bytes)))

end SyntheticLoad.Field
