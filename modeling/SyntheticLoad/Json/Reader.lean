import SyntheticLoad.Json.Basic
import SyntheticLoad.Json.Literal

/-!
# Reading documents

The reader follows the grammar of JSON. Blanks may stand between tokens; a
number is kept as its token; a comma has to be followed by another item. Values
that are only passed over (`Reading.skipping`) obey the same grammar, except that
their literals may escape lone surrogates.

The recursion is bounded by a number of steps, which `parse` takes from the
length of the text: every step below a value consumes a character.
-/

namespace SyntheticLoad.Json

/-- Whether a character is a blank of JSON. -/
def isSpace (c : Char) : Bool := c = ' ' || c = '\n' || c = '\r' || c = '\t'

/-- The text after the blanks at its start. -/
def skipSpace (cs : List Char) : List Char := cs.dropWhile isSpace

/-- The digits at the start of a text, of which there has to be one, and the rest. -/
def readDigits (cs : List Char) : Option (List Char × List Char) :=
  match cs.takeWhile Char.isDigit with
  | [] => none
  | ds => some (ds, cs.dropWhile Char.isDigit)

/-- The whole part of a number: `0`, or digits that do not start with `0`. -/
def readWhole (cs : List Char) : Option (List Char × List Char) := do
  let (ds, rest) ← readDigits cs
  if 1 < ds.length ∧ ds.head? = some '0' then none else pure (ds, rest)

/-- The decimals of a number, if a point follows. -/
def readDecimals : List Char → Option (List Char × List Char)
  | '.' :: cs => (readDigits cs).map fun (ds, rest) => ('.' :: ds, rest)
  | cs => some ([], cs)

/-- The digits of an exponent, with an optional sign. -/
def readSigned : List Char → Option (List Char × List Char)
  | '+' :: cs => (readDigits cs).map fun (ds, rest) => ('+' :: ds, rest)
  | '-' :: cs => (readDigits cs).map fun (ds, rest) => ('-' :: ds, rest)
  | cs => readDigits cs

/-- The exponent of a number, if one follows. -/
def readExponent : List Char → Option (List Char × List Char)
  | 'e' :: cs => (readSigned cs).map fun (ds, rest) => ('e' :: ds, rest)
  | 'E' :: cs => (readSigned cs).map fun (ds, rest) => ('E' :: ds, rest)
  | cs => some ([], cs)

/-- The token of a number without its sign, and the rest. -/
def readUnsigned (cs : List Char) : Option (List Char × List Char) := do
  let (whole, rest) ← readWhole cs
  let (decimals, rest) ← readDecimals rest
  let (exponent, rest) ← readExponent rest
  pure (whole ++ decimals ++ exponent, rest)

/-- The token of a number, and the rest. -/
def readNumber : List Char → Option (List Char × List Char)
  | '-' :: cs => (readUnsigned cs).map fun (token, rest) => ('-' :: token, rest)
  | cs => readUnsigned cs

mutual

/-- Reads a value after blanks, in at most the given number of steps. -/
def readValue (mode : Reading) : Nat → List Char → Option (Json × List Char)
  | 0, _ => none
  | fuel + 1, cs =>
    match skipSpace cs with
    | 'n' :: 'u' :: 'l' :: 'l' :: rest => some (.null, rest)
    | 't' :: 'r' :: 'u' :: 'e' :: rest => some (.bool true, rest)
    | 'f' :: 'a' :: 'l' :: 's' :: 'e' :: rest => some (.bool false, rest)
    | '"' :: rest =>
      (readLiteral mode rest).map fun (s, rest) => (.text (String.ofList s), rest)
    | '[' :: rest =>
      match skipSpace rest with
      | ']' :: rest => some (.array [], rest)
      | rest => (readItems mode fuel rest).map fun (items, rest) => (.array items, rest)
    | '\x7b' :: rest =>
      match skipSpace rest with
      | '\x7d' :: rest => some (.object [], rest)
      | rest => (readMembers mode fuel rest).map fun (members, rest) => (.object members, rest)
    | rest => (readNumber rest).map fun (token, rest) => (.number (String.ofList token), rest)

/-- Reads the items of an array up to its closing bracket. -/
def readItems (mode : Reading) : Nat → List Char → Option (List Json × List Char)
  | 0, _ => none
  | fuel + 1, cs =>
    match readValue mode fuel cs with
    | none => none
    | some (item, rest) =>
      match skipSpace rest with
      | ']' :: rest => some ([item], rest)
      | ',' :: rest => (readItems mode fuel rest).map fun (items, rest) => (item :: items, rest)
      | _ => none

/-- Reads the members of an object up to its closing brace. -/
def readMembers (mode : Reading) : Nat → List Char → Option (List (String × Json) × List Char)
  | 0, _ => none
  | fuel + 1, cs =>
    match skipSpace cs with
    | '"' :: rest =>
      match readLiteral mode rest with
      | none => none
      | some (key, rest) =>
        match skipSpace rest with
        | ':' :: rest =>
          match readValue mode fuel rest with
          | none => none
          | some (value, rest) =>
            match skipSpace rest with
            | '\x7d' :: rest => some ([(String.ofList key, value)], rest)
            | ',' :: rest =>
              (readMembers mode fuel rest).map fun (members, rest) =>
                ((String.ofList key, value) :: members, rest)
            | _ => none
        | _ => none
    | _ => none

end

/-- The number of steps that a text can need. -/
def stepsFor (cs : List Char) : Nat := 2 * cs.length + 2

/-- Reads a text that holds one document and blanks around it. -/
def parse (cs : List Char) : Option Json := do
  let (j, rest) ← readValue .keeping (stepsFor cs) cs
  if (skipSpace rest).isEmpty then pure j else none

end SyntheticLoad.Json
