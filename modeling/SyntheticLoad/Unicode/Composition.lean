import SyntheticLoad.Unicode.CombiningClass
import SyntheticLoad.Unicode.Decomposition

/-!
# Composed texts

Two texts that are the same but for their composition have the same composed form
(`composed`): all characters are taken apart, marks are put in the order of their
classes, and then each mark is put together with the character that it belongs to, as
far as there is a character for both and no mark between them keeps them apart.
-/

namespace SyntheticLoad.Unicode

/-- Puts a character in front of a text whose marks are in order. -/
def place (c : Char) : List Char → List Char
  | [] => [c]
  | d :: ds =>
    if combiningClass d ≠ 0 ∧ combiningClass d < combiningClass c then d :: place c ds
    else c :: d :: ds

/-- A text with its marks in the order of their classes. -/
def ordered : List Char → List Char
  | [] => []
  | c :: cs => place c (ordered cs)

/-- Whether a character of a class gets past the marks between it and the character that
    it may belong to. The last of them is given first. -/
def getsPast (between : List Char) (k : Nat) : Bool :=
  match between with
  | [] => true
  | last :: _ => combiningClass last < k

/-- Puts a character together with what follows it. The marks that stay behind it are
    given, the last one first. -/
def composeFrom (base : Char) (between : List Char) : List Char → List Char
  | [] => base :: between.reverse
  | c :: cs =>
    match if getsPast between (combiningClass c) then compose? base c else none with
    | some both => composeFrom both between cs
    | none =>
      if combiningClass c = 0 then base :: (between.reverse ++ composeFrom c [] cs)
      else composeFrom base (c :: between) cs

/-- The composed form of a text. -/
def composed (cs : List Char) : List Char :=
  match ordered (cs.flatMap decompose) with
  | [] => []
  | c :: cs => composeFrom c [] cs

end SyntheticLoad.Unicode
