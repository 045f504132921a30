import SyntheticLoad.Text.Cut
import SyntheticLoad.Text.Punycode
import SyntheticLoad.Unicode.CombiningClass
import SyntheticLoad.Unicode.Direction
import SyntheticLoad.Unicode.Joining
import SyntheticLoad.Unicode.Mark
import SyntheticLoad.Url.Domain.Folding

/-!
# Labels

A label is a part of a domain between full stops. It says a text, and it is written in
ASCII: a text that is not ASCII is written in Punycode behind `xn--`. The text may not
begin with a mark, and characters that only say how their neighbours join stand only
where these do join (`joinersFit`).

In a domain that has characters written from right to left, every label has to keep to
one direction (`Label.keepsDirection`): its first character tells which, and its last
one has to go along with it.
-/

namespace SyntheticLoad.Host

open Text Unicode

/-- Whether all characters are ASCII. -/
def isAscii (cs : List Char) : Bool := cs.all fun c => c.toNat < 128

/-! ### Joiners -/

/-- The character that keeps its neighbours from joining. -/
def nonJoiner : Char := '\u200c'

/-- The character that makes its neighbours join. -/
def joiner : Char := '\u200d'

/-- Whether the last character of a text joins the first one of another, but for what is
    transparent. The last character is given first. -/
def joinsAcross (before after : List Char) : Bool :=
  (before.dropWhile isTransparent).head?.any joinsNext &&
    (after.dropWhile isTransparent).head?.any joinsPrevious

/-- Whether a character fits between others, if it is one that tells how these join.
    What stands before it is given with the last character first. -/
def fitsBetween (before : List Char) (c : Char) (after : List Char) : Bool :=
  if c = joiner ∨ c = nonJoiner then
    before.head?.any (combiningClass · == viramaClass) ||
      (c == nonJoiner && joinsAcross before after)
  else
    true

/-- Whether all joiners of a text fit where they stand; what stands before it is given
    with the last character first. -/
def joinersFit : List Char → List Char → Bool
  | _, [] => true
  | before, c :: cs => fitsBetween before c cs && joinersFit (c :: before) cs

/-! ### Direction -/

/-- Whether a character makes its domain one with two directions. -/
def isRightward (c : Char) : Bool :=
  let k := directionClass c
  k == .right || k == .arabic || k == .arabicNumber

/-- What goes along with either direction. -/
def isBothways (k : DirectionClass) : Bool :=
  k == .europeanNumber || k == .separator || k == .terminator || k == .commonSeparator ||
    k == .mark || k == .unseen || k == .neutral

/-- Whether classes are those of a text from left to right; the last one is that of the
    last character but for marks. -/
def isLeftToRight (classes : List DirectionClass) (last : DirectionClass) : Bool :=
  classes.all (fun k => k == .left || isBothways k) && (last == .left || last == .europeanNumber)

/-- Whether classes are those of a text from right to left. It has digits of one kind. -/
def isRightToLeft (classes : List DirectionClass) (last : DirectionClass) : Bool :=
  classes.all (fun k => k == .right || k == .arabic || k == .arabicNumber || isBothways k) &&
    (last == .right || last == .arabic || last == .arabicNumber || last == .europeanNumber) &&
    !(classes.contains .arabicNumber && classes.contains .europeanNumber)

/-- Whether a text keeps to the direction of its first character. -/
def keepsDirection (cs : List Char) : Bool :=
  let classes := cs.map directionClass
  match classes, classes.reverse.dropWhile (· == .mark) with
  | .left :: _, last :: _ => isLeftToRight classes last
  | .right :: _, last :: _ => isRightToLeft classes last
  | .arabic :: _, last :: _ => isRightToLeft classes last
  | [], _ => true
  | _, _ => false

/-! ### Labels -/

/-- A label of a domain. -/
structure Label where
  /-- What it says. -/
  text : List Char
  /-- How it is written. -/
  written : List Char
  deriving DecidableEq, Repr

namespace Label

/-- The longest text that is written in Punycode. -/
def longestText : Nat := 1000

/-- The longest Punycode that is read. -/
def longestPunycode : Nat := 2000

/-- Whether a text that is not ASCII may be that of a label. -/
def isSound (cs : List Char) : Bool := !cs.head?.any isMark && joinersFit [] cs

/-- The text in Punycode, which has to be one that needs it, and folded. -/
def punycodeText? (cs : List Char) : Option (List Char) :=
  if longestPunycode < cs.length then
    none
  else
    (Punycode.decode cs).filter fun text => !isAscii text && fold? text == some text

/-- The label in a folded domain. -/
def ofFolded? (cs : List Char) : Option Label :=
  match strip "xn--".toList cs with
  | some rest => ((punycodeText? rest).filter isSound).map fun text => ⟨text, cs⟩
  | none =>
    if isAscii cs then some ⟨cs, cs⟩
    else if !isSound cs || longestText < cs.length then none
    else some ⟨cs, "xn--".toList ++ Punycode.encode cs⟩

end Label

end SyntheticLoad.Host
