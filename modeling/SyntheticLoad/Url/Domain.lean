import SyntheticLoad.Text.Blank
import SyntheticLoad.Text.Cut
import SyntheticLoad.Url.Basic
import SyntheticLoad.Url.Domain.Label

/-!
# Domains

A domain is written in ASCII and in lower case. It is folded first, and then each of
its labels is written as it has to be. Some ASCII characters may not stand in a domain,
whether they were there from the start or come from another character.
-/

namespace SyntheticLoad.Host

open Text

/-- Whether a character may not stand in a domain. -/
def isForbidden (c : Char) : Bool :=
  c.toNat ≤ 32 || c.toNat = 127 || "%#/:<>?@[\\]^|".contains c

/-- A domain in its folded form. -/
def folded? (cs : List Char) : Option (List Char) :=
  if isAscii cs then some (lower cs) else fold? cs

/-- Whether labels have characters written from right to left. None of those is ASCII. -/
def hasTwoDirections (labels : List Label) : Bool :=
  labels.any fun label => !isAscii label.text && label.text.any isRightward

/-- The labels of a domain. If it has two directions, each label has to keep to one. -/
def labels? (cs : List Char) : Option (List Label) := do
  let folded ← folded? cs
  if folded.any isForbidden then
    none
  else
    let labels ← (split '.' folded).mapM Label.ofFolded?
    if hasTwoDirections labels && !labels.all (keepsDirection ·.text) then none
    else some labels

/-- A domain in ASCII. -/
def asciiDomain? (cs : List Char) : Option (List Char) :=
  (labels? cs).map fun labels => ['.'].intercalate (labels.map Label.written)

end SyntheticLoad.Host
