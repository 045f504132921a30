import SyntheticLoad.Text.Numeral

/-!
# Grouped numerals

Numerals with a comma between groups of three digits, counted from the right
(`1,234,567`).
-/

namespace SyntheticLoad.Text

/-- The characters with a comma before each that has a multiple of three
    characters from itself on, the first one excepted. -/
def groupedAfter : List Char → List Char
  | [] => []
  | c :: cs => if (cs.length + 1) % 3 = 0 then ',' :: c :: groupedAfter cs else c :: groupedAfter cs

/-- The decimal numeral of a number, in groups of three digits. -/
def grouped (n : Nat) : List Char :=
  match digits n with
  | [] => []
  | c :: cs => c :: groupedAfter cs

end SyntheticLoad.Text
