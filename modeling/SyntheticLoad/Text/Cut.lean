/-!
# Cutting text at a character

`cut sep cs` is what stands before and after the first `sep`, and `split sep cs`
the pieces between all of them. Nothing is lost but the separators.
-/

namespace SyntheticLoad.Text

/-- The text before and after the first occurrence of `sep`, if there is one. -/
def cut (sep : Char) : List Char → Option (List Char × List Char)
  | [] => none
  | c :: rest =>
    if c = sep then
      some ([], rest)
    else
      (cut sep rest).map fun (before, after) => (c :: before, after)

/-- The pieces of a text between the occurrences of `sep`. There is always one. -/
def split (sep : Char) : List Char → List (List Char)
  | [] => [[]]
  | c :: rest =>
    if c = sep then
      [] :: split sep rest
    else
      match split sep rest with
      | [] => [[c]]
      | piece :: pieces => (c :: piece) :: pieces

/-- What is left of a text after a given beginning, if it has that beginning. -/
def strip : List Char → List Char → Option (List Char)
  | [], cs => some cs
  | _ :: _, [] => none
  | p :: ps, c :: cs => if p = c then strip ps cs else none

/-- The first line of a text, without the line break that ends it. -/
def firstLine (cs : List Char) : List Char :=
  match cut '\n' cs with
  | none => cs
  | some (line, _) => if line.getLast? = some '\r' then line.dropLast else line

end SyntheticLoad.Text
