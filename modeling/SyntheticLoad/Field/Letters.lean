import SyntheticLoad.Random.Uniform

/-!
# Random text

Text is drawn character by character from an alphabet; an empty alphabet gives
the empty text and draws nothing. A length that may vary is drawn before the
characters, unless there is only one choice.
-/

namespace SyntheticLoad.Field

open SyntheticLoad.Random

/-- The small letters. -/
def smallLetters : String := "abcdefghijklmnopqrstuvwxyz"

/-- The letters, small ones first. -/
def letterAlphabet : String := "abcdefghijklmnopqrstuvwxyzABCDEFGHIJKLMNOPQRSTUVWXYZ"

/-- The letters, small ones first, and the digits. -/
def alphanumericAlphabet : String :=
  "abcdefghijklmnopqrstuvwxyzABCDEFGHIJKLMNOPQRSTUVWXYZ0123456789"

/-- The small letters and the digits. -/
def smallAlphanumericAlphabet : String := "abcdefghijklmnopqrstuvwxyz0123456789"

section

variable {σ : Type} [WordSource σ]

/-- Characters of an alphabet, as many as wanted. -/
def fromAlphabet (alphabet : List Char) (length : Nat) : Draw σ String :=
  match alphabet with
  | [] => pure ""
  | c :: cs => do
    let chars ← Draw.times (pick c cs) length
    pure (String.ofList chars)

/-- Letters of either case. -/
def letters (length : Nat) : Draw σ String := fromAlphabet letterAlphabet.toList length

/-- Small letters. -/
def lowercase (length : Nat) : Draw σ String := fromAlphabet smallLetters.toList length

/-- Letters and digits. -/
def alphanumeric (length : Nat) : Draw σ String :=
  fromAlphabet alphanumericAlphabet.toList length

/-- Small letters and digits. -/
def smallAlphanumeric (length : Nat) : Draw σ String :=
  fromAlphabet smallAlphanumericAlphabet.toList length

/-- A size between `low` and `high`; `low`, without a draw, unless that leaves a choice. -/
def sizeInRange (low high : Nat) : Draw σ Nat :=
  if high ≤ low then pure low else sizeBetween low high

/-- Letters and digits, between `low` and `high` of them. -/
def alphanumericBetween (low high : Nat) : Draw σ String := do
  let length ← sizeInRange low high
  alphanumeric length

/-- A word with its first letter in upper case and the others in lower case. -/
def capitalize : List Char → List Char
  | [] => []
  | c :: cs => c.toUpper :: cs.map Char.toLower

/-- A capitalized word of letters. -/
def capitalized (length : Nat) : Draw σ String := do
  let word ← letters length
  pure (String.ofList (capitalize word.toList))

end

end SyntheticLoad.Field
