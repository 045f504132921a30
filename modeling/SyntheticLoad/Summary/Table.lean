import SyntheticLoad.Decimal.Fixed
import SyntheticLoad.Summary.Basic
import SyntheticLoad.Text.Grouped

/-!
# The summary as a table

The table has a row for each status in increasing order, a row for the outcomes
without a status if there are any, and a row for the total. It is drawn as a box
of two columns, each as wide as its longest cell and a space on either side
(`Box`). Below it stand the duration and the rate, with one decimal.
-/

namespace SyntheticLoad

open Decimal Text

/-- A table of two columns. -/
structure Box where
  /-- The cells of the header. -/
  header : List Char × List Char
  /-- The cells of the other rows. -/
  rows : List (List Char × List Char)
  deriving DecidableEq, Repr

namespace Box

/-- The lines of a border: its left end, its filling, its middle and its right end. -/
structure Border where
  left : Char
  fill : Char
  middle : Char
  right : Char

/-- The line above the header. -/
def top : Border := ⟨'┌', '─', '┬', '┐'⟩

/-- The line below the header. -/
def belowHeader : Border := ⟨'╞', '═', '╪', '╡'⟩

/-- The line between two rows. -/
def betweenRows : Border := ⟨'├', '╌', '┼', '┤'⟩

/-- The line below the last row. -/
def bottom : Border := ⟨'└', '─', '┴', '┘'⟩

/-- The length of the longest of some cells. -/
def widest (cells : List (List Char)) : Nat :=
  cells.foldl (fun w c => max w c.length) 0

/-- The width of the first column. -/
def firstWidth (b : Box) : Nat := widest (b.header.1 :: b.rows.map Prod.fst)

/-- The width of the second column. -/
def secondWidth (b : Box) : Nat := widest (b.header.2 :: b.rows.map Prod.snd)

/-- A border line over columns of given widths. -/
def Border.line (b : Border) (first second : Nat) : List Char :=
  b.left :: (List.replicate (first + 2) b.fill ++ b.middle :: List.replicate (second + 2) b.fill ++
    [b.right])

/-- A cell, filled up with spaces to the width of its column. -/
def cell (width : Nat) (text : List Char) : List Char :=
  ' ' :: (text ++ List.replicate (width - text.length) ' ' ++ [' '])

/-- A row over columns of given widths. -/
def rowLine (first second : Nat) (row : List Char × List Char) : List Char :=
  '│' :: (cell first row.1 ++ '┆' :: cell second row.2 ++ ['│'])

/-- The lines of some rows, with a border between them. -/
def rowLines (first second : Nat) : List (List Char × List Char) → List (List Char)
  | [] => []
  | [row] => [rowLine first second row]
  | row :: rows =>
    rowLine first second row :: betweenRows.line first second :: rowLines first second rows

/-- The lines of a table. -/
def lines (b : Box) : List (List Char) :=
  let first := b.firstWidth
  let second := b.secondWidth
  top.line first second :: rowLine first second b.header :: belowHeader.line first second ::
    (rowLines first second b.rows ++ [bottom.line first second])

end Box

namespace Summary

/-- The row of a status. -/
def statusRow (count : UInt16 × UInt64) : List Char × List Char :=
  ("HTTP ".toList ++ digits count.1.toNat, grouped count.2.toNat)

/-- The row of the outcomes without a status. -/
def transportRow (s : Summary) : List (List Char × List Char) :=
  if 0 < s.transportErrors then
    [("Transport error".toList, grouped s.transportErrors.toNat)]
  else
    []

/-- The row of the total. -/
def totalRow (s : Summary) : List Char × List Char :=
  ("TOTAL".toList, grouped s.completed.toNat ++ " (".toList ++ grouped s.successes.toNat ++
    " ok / ".toList ++ grouped s.errors.toNat ++ " failed)".toList)

/-- The table of a summary. -/
def box (s : Summary) : Box where
  header := ("Outcome".toList, "Count".toList)
  rows := s.statusCounts.map statusRow ++ s.transportRow ++ [s.totalRow]

/-- The line below the table. -/
def paceLine (s : Summary) : String :=
  "Duration: " ++ fixed 1 s.seconds ++ "s  Throughput: " ++ fixed 1 s.requestsPerSecond ++ " req/s"

/-- The table and the line below it. -/
def table (s : Summary) : String :=
  "\n".intercalate (s.box.lines.map String.ofList) ++ "\n" ++ s.paceLine ++ "\n"

end Summary

end SyntheticLoad
