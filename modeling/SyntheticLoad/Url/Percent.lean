import SyntheticLoad.Text.Hex

/-!
# Percent encoding

In an address a byte can be written by its two hexadecimal digits after a percent
sign. Writing does so for every byte that is not ASCII and for the ASCII
characters of a set that hangs on the part of the address; the sets are those of
the URL standard. Reading takes digits of either case, and leaves a percent sign
alone that is not followed by two digits.
-/

namespace SyntheticLoad.Url

open Text

/-- A byte after a percent sign, digits in upper case. -/
def percentByte (b : UInt8) : List Char := '%' :: (hexByte b).map Char.toUpper

/-- A character by its bytes. -/
def percentChar (c : Char) : List Char :=
  (String.singleton c).toUTF8.toList.flatMap percentByte

/-- A text with the characters of a set, and those that are not ASCII, by their bytes. -/
def percentEncode (set : Char → Bool) (cs : List Char) : List Char :=
  cs.flatMap fun c => if 127 ≤ c.toNat || set c then percentChar c else [c]

/-- The control characters. -/
def isControl (c : Char) : Bool := c.toNat < 32

/-- What is encoded in a fragment. -/
def fragmentSet (c : Char) : Bool := isControl c || " \"<>\x60".contains c

/-- What is encoded in a path. -/
def pathSet (c : Char) : Bool := fragmentSet c || "#?\x7b\x7d".contains c

/-- What is encoded in a user's name or password. -/
def userSet (c : Char) : Bool := pathSet c || "/:;=@[\\]^|".contains c

/-- What is encoded in a query. -/
def querySet (c : Char) : Bool := isControl c || " \"#<>".contains c

/-- What is encoded in the query of a special scheme. -/
def specialQuerySet (c : Char) : Bool := querySet c || c == '\x27'

/-- The bytes of a text, each encoded one read as the byte it stands for. -/
def percentDecode : List Char → List UInt8
  | [] => []
  | '%' :: a :: b :: rest =>
    match hexValue? a, hexValue? b with
    | some x, some y => UInt8.ofNat (x * 16 + y) :: percentDecode rest
    | _, _ => (String.singleton '%').toUTF8.toList ++ percentDecode (a :: b :: rest)
  | c :: rest => (String.singleton c).toUTF8.toList ++ percentDecode rest

end SyntheticLoad.Url
