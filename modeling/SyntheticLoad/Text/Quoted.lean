import SyntheticLoad.Text.Hex
import SyntheticLoad.Unicode.Printing

/-!
# Quoted paths

A path inside a message stands between quotes. A quote, a backslash and the
common control characters are escaped by a backslash and a letter, and every
other character that does not print by itself by its code point (`\u{7f}`).
-/

namespace SyntheticLoad.Text

/-- How a character is written between quotes. -/
def quotedChar (c : Char) : List Char :=
  match c with
  | '"' => ['\\', '"']
  | '\\' => ['\\', '\\']
  | '\n' => ['\\', 'n']
  | '\r' => ['\\', 'r']
  | '\t' => ['\\', 't']
  | '\x00' => ['\\', '0']
  | c => if Unicode.isPrinted c then [c] else ['\\', 'u', '\x7b'] ++ hexDigits c.toNat ++ ['\x7d']

/-- A text between quotes. -/
def quoted (cs : List Char) : List Char :=
  '"' :: cs.flatMap quotedChar ++ ['"']

end SyntheticLoad.Text
