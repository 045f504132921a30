/-!
# Blanks and case

The characters with the Unicode property `White_Space`, and trimming by them.
Trimming is on lists of characters: `trimLeft` and `trimRight` drop the blanks at
one end, `trim` at both. Only ASCII letters have a case here: `lower` changes no
other characters, and `equalButCase` takes no others for the same.
-/

namespace SyntheticLoad.Text

/-- Whether a character has the Unicode property `White_Space`. -/
def isBlank (c : Char) : Bool :=
  let n := c.toNat
  (9 ≤ n && n ≤ 13) || n == 0x20 || n == 0x85 || n == 0xA0 || n == 0x1680 ||
    (0x2000 ≤ n && n ≤ 0x200A) || n == 0x2028 || n == 0x2029 || n == 0x202F ||
    n == 0x205F || n == 0x3000

/-- The text without the characters of a class at its start. -/
def trimLeft (p : Char → Bool) (cs : List Char) : List Char :=
  cs.dropWhile p

/-- The text without the characters of a class at its end. -/
def trimRight (p : Char → Bool) (cs : List Char) : List Char :=
  (cs.reverse.dropWhile p).reverse

/-- The text without the characters of a class at either end. -/
def trimBy (p : Char → Bool) (cs : List Char) : List Char :=
  trimRight p (trimLeft p cs)

/-- The text without the blanks at either end. -/
def trim (cs : List Char) : List Char :=
  trimBy isBlank cs

/-- The text in lower case, as far as its letters are ASCII. Other characters stay. -/
def lower (cs : List Char) : List Char :=
  cs.map Char.toLower

/-- Whether two texts are equal but for the case of their ASCII letters. -/
def equalButCase (cs ds : List Char) : Bool :=
  cs.isEqv ds fun c d => c.toLower == d.toLower

end SyntheticLoad.Text
