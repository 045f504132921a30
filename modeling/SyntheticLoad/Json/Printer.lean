import SyntheticLoad.Json.Basic
import SyntheticLoad.Json.Literal

/-!
# Printing documents

Two layouts of the same tokens. The compact one has nothing between them. The
pretty one puts every item and every member on a line of its own, two spaces
deeper than the container, and a space after the colon of a member; an empty
container stays on its line.
-/

namespace SyntheticLoad.Json

mutual

/-- A document without blanks between its tokens. -/
def compact : Json → List Char
  | .null => "null".toList
  | .bool true => "true".toList
  | .bool false => "false".toList
  | .number token => token.toList
  | .text s => literal s.toList
  | .array items => '[' :: (compactItems items ++ [']'])
  | .object members => '\x7b' :: (compactMembers members ++ ['\x7d'])

/-- The items of an array, with commas between them. -/
def compactItems : List Json → List Char
  | [] => []
  | item :: items => compact item ++ compactMoreItems items

/-- Items of an array, each with a comma before it. -/
def compactMoreItems : List Json → List Char
  | [] => []
  | item :: items => ',' :: (compact item ++ compactMoreItems items)

/-- The members of an object, with commas between them. -/
def compactMembers : List (String × Json) → List Char
  | [] => []
  | (key, value) :: members =>
    literal key.toList ++ ':' :: (compact value ++ compactMoreMembers members)

/-- Members of an object, each with a comma before it. -/
def compactMoreMembers : List (String × Json) → List Char
  | [] => []
  | (key, value) :: members =>
    ',' :: (literal key.toList ++ ':' :: (compact value ++ compactMoreMembers members))

end

/-- A line break and the indentation of a depth. -/
def newLine (depth : Nat) : List Char :=
  '\n' :: List.replicate (2 * depth) ' '

mutual

/-- A document over several lines, where the first line is at the given depth. -/
def pretty (depth : Nat) : Json → List Char
  | .null => "null".toList
  | .bool true => "true".toList
  | .bool false => "false".toList
  | .number token => token.toList
  | .text s => literal s.toList
  | .array [] => "[]".toList
  | .array (item :: items) =>
    '[' :: (newLine (depth + 1) ++ pretty (depth + 1) item ++ prettyMoreItems (depth + 1) items ++
      newLine depth ++ [']'])
  | .object [] => "\x7b\x7d".toList
  | .object ((key, value) :: members) =>
    '\x7b' :: (newLine (depth + 1) ++ literal key.toList ++ ':' :: ' ' ::
      pretty (depth + 1) value ++ prettyMoreMembers (depth + 1) members ++ newLine depth ++
      ['\x7d'])

/-- Items of an array, each on a line of its own with a comma before the line. -/
def prettyMoreItems (depth : Nat) : List Json → List Char
  | [] => []
  | item :: items =>
    ',' :: (newLine depth ++ pretty depth item ++ prettyMoreItems depth items)

/-- Members of an object, each on a line of its own with a comma before the line. -/
def prettyMoreMembers (depth : Nat) : List (String × Json) → List Char
  | [] => []
  | (key, value) :: members =>
    ',' :: (newLine depth ++ literal key.toList ++ ':' :: ' ' :: pretty depth value ++
      prettyMoreMembers depth members)

end

/-- The compact text of a document. -/
def toText (j : Json) : String := String.ofList j.compact

/-- The pretty text of a document. -/
def toPrettyText (j : Json) : String := String.ofList (j.pretty 0)

end SyntheticLoad.Json
