/-!
# Bytes as text

UTF-8 is read byte by byte. The first byte of a character says how many others there are, and
each of those has to be in a range. A character that is begun and does not go on as it has to is
broken, and so is a byte that begins none. The byte at which a character breaks is read once
more, as the beginning of the next one.
-/

namespace SyntheticLoad.Text

/-- A byte as the character of the same number. -/
def byteChar (b : UInt8) : Char := Char.ofNat b.toNat

/-- The first bytes of a character: what it is so far, and the ranges of the next byte and of
    those behind it. -/
structure Begun where
  value : Nat
  next : UInt8 × UInt8
  later : List (UInt8 × UInt8)
  deriving DecidableEq, Repr

/-- The range of a byte that goes on with a character. -/
def anyNext : UInt8 × UInt8 := (0x80, 0xBF)

/-- What a first byte says, if it is one: what the character is so far, and the ranges of the
    bytes to come. Some bytes narrow the range of the second one, so that no character is
    written with more bytes than it needs, is a surrogate or is too large. -/
def firstByte? (b : UInt8) : Option (Nat × List (UInt8 × UInt8)) :=
  let n := b.toNat
  if b < 0x80 then some (n, [])
  else if b < 0xC2 then none
  else if b < 0xE0 then some (n - 0xC0, [anyNext])
  else if b = 0xE0 then some (n - 0xE0, [(0xA0, 0xBF), anyNext])
  else if b = 0xED then some (n - 0xE0, [(0x80, 0x9F), anyNext])
  else if b < 0xF0 then some (n - 0xE0, [anyNext, anyNext])
  else if b = 0xF0 then some (n - 0xF0, [(0x90, 0xBF), anyNext, anyNext])
  else if b < 0xF4 then some (n - 0xF0, [anyNext, anyNext, anyNext])
  else if b = 0xF4 then some (n - 0xF0, [(0x80, 0x8F), anyNext, anyNext])
  else none

/-- A character if no bytes are to come, and else what has been begun. -/
def goOn (value : Nat) : List (UInt8 × UInt8) → List (Option Char) × Option Begun
  | [] => ([some (Char.ofNat value)], none)
  | next :: later => ([], some ⟨value, next, later⟩)

/-- What a byte comes to where no character has been begun. -/
def readFirst (b : UInt8) : List (Option Char) × Option Begun :=
  match firstByte? b with
  | none => ([none], none)
  | some (value, ranges) => goOn value ranges

/-- What a byte comes to. -/
def readByte (begun : Option Begun) (b : UInt8) : List (Option Char) × Option Begun :=
  match begun with
  | none => readFirst b
  | some ⟨value, (low, high), later⟩ =>
    if low ≤ b ∧ b ≤ high then
      goOn (value * 64 + (b.toNat - 0x80)) later
    else
      (none :: (readFirst b).1, (readFirst b).2)

/-- The characters of bytes behind what has been begun; `none` are the broken ones. -/
def decode (begun : Option Begun) : List UInt8 → List (Option Char)
  | [] => if begun.isSome then [none] else []
  | b :: bytes => (readByte begun b).1 ++ decode (readByte begun b).2 bytes

/-- The characters of bytes that are text. -/
def textOf? (bytes : List UInt8) : Option (List Char) := (decode none bytes).mapM id

/-- Bytes as text, with `U+FFFD` in place of what is broken. -/
def lossyText (bytes : List UInt8) : String :=
  String.ofList ((decode none bytes).map (·.getD '\uFFFD'))

end SyntheticLoad.Text
