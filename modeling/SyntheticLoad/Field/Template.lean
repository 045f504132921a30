import SyntheticLoad.Field.Letters
import SyntheticLoad.Field.Number
import SyntheticLoad.Field.Uuid
import SyntheticLoad.Text.Cut
import SyntheticLoad.Text.Numeral

/-!
# Templates

A template is a text with slots. A slot is what stands between an opening brace
and the first closing brace after it; an opening brace that is never closed is
plain text to the end (`Segment.split`). A slot whose token names a placeholder
is filled at random, and any other slot is copied with its braces and draws
nothing (`Segment.expand`). What a slot is filled with is not looked at again.

The placeholders and their tokens:

* `uuid`, an identifier;
* `letters:N`, `lower:N`, `alnum:N`, `capital:N`, a text of `N` characters;
* `int:A-B` and `int:A-B:W`, an integer from `A` to `B`, with zeros in front of it
  up to `W` digits;
* `pick:a|b|…`, one of the listed texts.
-/

namespace SyntheticLoad.Field

open SyntheticLoad.Random Text

/-- A piece of a template. -/
inductive Segment
  /-- Text that is copied. -/
  | plain (text : List Char)
  /-- The token between two braces. -/
  | slot (token : List Char)
  deriving DecidableEq, Repr

/-- What a slot can be filled with. -/
inductive Placeholder
  | uuid
  | letters (length : Nat)
  | lower (length : Nat)
  | alnum (length : Nat)
  | capital (length : Nat)
  | int (low high : Int64) (width : Nat)
  /-- One of the texts; the first is apart because there is always one. -/
  | pick (first : List Char) (others : List (List Char))
  deriving DecidableEq, Repr

/-- Puts a character in front of the plain text that pieces start with. -/
def Segment.cons (c : Char) : List Segment → List Segment
  | .plain text :: segments => .plain (c :: text) :: segments
  | segments => .plain [c] :: segments

/-- The pieces of a template from a place on. Behind an opening brace that has not been
    closed, what has been read since is given, its last character first. -/
def Segment.scan : Option (List Char) → List Char → List Segment
  | none, [] => []
  | some token, [] => [.plain ('\x7b' :: token.reverse)]
  | none, c :: cs =>
    if c = '\x7b' then Segment.scan (some []) cs else Segment.cons c (Segment.scan none cs)
  | some token, c :: cs =>
    if c = '\x7d' then
      .slot token.reverse :: Segment.scan none cs
    else
      Segment.scan (some (c :: token)) cs

/-- The pieces of a template, from left to right. -/
def Segment.split (template : List Char) : List Segment := Segment.scan none template

/-- Reads the length of a text, or the width of a field. -/
def readSize (cs : List Char) : Option Nat :=
  (readNat maxWord cs).toOption

/-- The placeholder of a range of integers, by what follows `int:`. -/
def Placeholder.ofRange? (arg : List Char) : Option Placeholder := do
  let (range, width) ←
    match cut ':' arg with
    | none => some (arg, 0)
    | some (range, width) => (readSize width).map fun w => (range, w)
  let (low, high) ← cut '-' range
  let low ← (readInt64 low).toOption
  let high ← (readInt64 high).toOption
  if high < low then none else pure (.int low high width)

/-- The placeholder that a token names, if it names one. -/
def Placeholder.ofToken? (token : List Char) : Option Placeholder :=
  match cut ':' token with
  | none => if token = "uuid".toList then some .uuid else none
  | some (name, arg) =>
    if name = "letters".toList then (readSize arg).map .letters
    else if name = "lower".toList then (readSize arg).map .lower
    else if name = "alnum".toList then (readSize arg).map .alnum
    else if name = "capital".toList then (readSize arg).map .capital
    else if name = "int".toList then Placeholder.ofRange? arg
    else if name = "pick".toList then
      match split '|' arg with
      | [] => none
      | first :: others => some (.pick first others)
    else none

/-- The widest field that a number is padded to. -/
def widestField : Nat := 65535

/-- An integer with zeros between its sign and its digits, up to a width. -/
def paddedInteger (width : Nat) (n : Int) : List Char :=
  match n with
  | .ofNat n => padded width n
  | .negSucc n => '-' :: padded (width - 1) (n + 1)

section

variable {σ : Type} [WordSource σ]

/-- What a placeholder is filled with. Only a field that is too wide breaks off. -/
def Placeholder.fill : Placeholder → Attempt σ String
  | .uuid => Draw.attempt identifier
  | .letters n => Draw.attempt (Field.letters n)
  | .lower n => Draw.attempt (lowercase n)
  | .alnum n => Draw.attempt (alphanumeric n)
  | .capital n => Draw.attempt (capitalized n)
  | .int low high width => do
    let n ← Draw.attempt (intInRange low high)
    if widestField < width then
      throw (.fieldTooWide width)
    else
      pure (String.ofList (paddedInteger width n.toInt))
  | .pick first others => do
    let choice ← Draw.attempt (Random.pick first others)
    pure (String.ofList choice)

/-- What stands in the place of a piece. -/
def Segment.expand : Segment → Attempt σ String
  | .plain text => pure (String.ofList text)
  | .slot token =>
    match Placeholder.ofToken? token with
    | some p => p.fill
    | none => pure (String.ofList ('\x7b' :: token ++ ['\x7d']))

/-- What stands in the place of some pieces, one after the other. -/
def Segment.expandAll : List Segment → Attempt σ String
  | [] => pure ""
  | s :: rest => do
    let a ← s.expand
    let b ← Segment.expandAll rest
    pure (a ++ b)

/-- A text after a template. -/
def expandTemplate (template : String) : Attempt σ String :=
  Segment.expandAll (Segment.split template.toList)

end

end SyntheticLoad.Field
