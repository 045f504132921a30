import SyntheticLoad.Text.Hex

/-!
# Tables of characters

A table tells for some characters what they stand for, or only that they have a
property. It is written as entries with blanks between them:

* `3D0` is one character, by its code point;
* `391-3A1` are all characters from the first to the last;
* `222/232` is every second one of them;
* after `>` comes what the first one stands for, code points with full stops between
  them, as in `132>69.6A`. If that is a single one, as in `391-3A1>3B1`, the others
  stand for the characters as far behind it as they are behind the first.

The entries are in increasing order and do not overlap, so that one is found by
halving. All tables of this library are those of Unicode 17.
-/

namespace SyntheticLoad.Unicode

open Text

/-- Some characters in a row. -/
structure Entry where
  first : Nat
  last : Nat
  /-- The distance between neighbours. -/
  step : Nat
  /-- What the first one stands for. -/
  image : List Nat
  deriving DecidableEq, Repr

/-- A table. -/
abbrev Table := Array Entry

namespace Entry

/-- The number that hexadecimal digits stand for. -/
def number (digits : String) : Nat :=
  digits.foldl (fun n c => n * 16 + (hexValue? c).getD 0) 0

/-- The characters that are written with a hyphen, with a slash, or alone, and what the
    first of them stands for. -/
def ofRow (row : String) (image : List Nat) : Entry :=
  match row.splitOn "-", row.splitOn "/" with
  | [first, last], _ => ⟨number first, number last, 1, image⟩
  | _, [first, last] => ⟨number first, number last, 2, image⟩
  | _, _ => ⟨number row, number row, 1, image⟩

/-- The entry that a text stands for. -/
def ofText (s : String) : Entry :=
  match s.splitOn ">" with
  | [row, image] => ofRow row ((image.splitOn ".").map number)
  | _ => ofRow s []

/-- Whether an entry is about a character. -/
def holds (e : Entry) (n : Nat) : Bool :=
  e.first ≤ n && n ≤ e.last && (n - e.first) % e.step == 0

/-- What a character of an entry stands for. -/
def imageOf (e : Entry) (n : Nat) : List Nat :=
  match e.image with
  | [only] => [only + (n - e.first)]
  | image => image

end Entry

namespace Table

/-- The table that a text stands for. -/
def ofText (s : String) : Table :=
  let words := (s.splitOn "\n").flatMap fun line => (line.splitOn " ").filter (· ≠ "")
  (words.map Entry.ofText).toArray

/-- The first entry from `low` on and before `high` that does not end before a
    character. -/
def search (t : Table) (n low high : Nat) : Option Entry :=
  if low < high then
    let middle := (low + high) / 2
    match t[middle]? with
    | none => none
    | some e => if e.last < n then search t n (middle + 1) high else search t n low middle
  else
    t[low]?
termination_by high - low

/-- The entry about a character. -/
def entry? (t : Table) (c : Char) : Option Entry :=
  (t.search c.toNat 0 t.size).filter (·.holds c.toNat)

/-- Whether a character is in the table. -/
def contains (t : Table) (c : Char) : Bool := (t.entry? c).isSome

/-- What a character stands for. -/
def image? (t : Table) (c : Char) : Option (List Char) :=
  (t.entry? c).map fun e => (e.imageOf c.toNat).map Char.ofNat

end Table

end SyntheticLoad.Unicode
