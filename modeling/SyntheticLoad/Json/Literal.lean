import SyntheticLoad.Text.Hex

/-!
# String literals

Writing a literal escapes the quote, the backslash and the control characters:
five of them by a letter, the others by four hexadecimal digits in lower case.
Everything else stands for itself. Reading takes all escapes of JSON, hexadecimal
digits of either case, and two escapes of surrogates as one character. A lone
surrogate stands for no character; `readLiteral` refuses it, unless the literal
is only passed over (`Reading.skipping`).
-/

namespace SyntheticLoad.Json

open Text (hexDigit hexValue?)

/-- A character inside a literal. -/
def escapeChar (c : Char) : List Char :=
  if c = '"' then ['\\', '"']
  else if c = '\\' then ['\\', '\\']
  else if 32 ≤ c.toNat then [c]
  else if c = '\n' then ['\\', 'n']
  else if c = '\r' then ['\\', 'r']
  else if c = '\t' then ['\\', 't']
  else if c.toNat = 8 then ['\\', 'b']
  else if c.toNat = 12 then ['\\', 'f']
  else ['\\', 'u', '0', '0', hexDigit (c.toNat / 16), hexDigit (c.toNat % 16)]

/-- A string as a literal. -/
def literal (cs : List Char) : List Char :=
  '"' :: (cs.flatMap escapeChar ++ ['"'])

/-- What a text is read for. -/
inductive Reading
  /-- For its value. -/
  | keeping
  /-- Only to find where it ends. -/
  | skipping
  deriving DecidableEq, Repr

/-- The value of four hexadecimal digits. -/
def hexQuad? (a b c d : Char) : Option Nat := do
  let a ← hexValue? a
  let b ← hexValue? b
  let c ← hexValue? c
  let d ← hexValue? d
  pure (((a * 16 + b) * 16 + c) * 16 + d)

/-- Whether a 16-bit unit is the first of a pair. -/
def isHighSurrogate (n : Nat) : Bool := 0xD800 ≤ n && n < 0xDC00

/-- Whether a 16-bit unit is the second of a pair. -/
def isLowSurrogate (n : Nat) : Bool := 0xDC00 ≤ n && n < 0xE000

/-- The character of a pair of surrogates. -/
def joinSurrogates (high low : Nat) : Char :=
  Char.ofNat (0x10000 + (high - 0xD800) * 0x400 + (low - 0xDC00))

/-- The character that a one-letter escape stands for. -/
def letterEscape? (c : Char) : Option Char :=
  match c with
  | '"' => some '"'
  | '\\' => some '\\'
  | '/' => some '/'
  | 'b' => some '\x08'
  | 'f' => some '\x0c'
  | 'n' => some '\n'
  | 'r' => some '\r'
  | 't' => some '\t'
  | _ => none

/-- Puts a character in front of what the rest of a literal reads as. -/
def consRead (c : Char) (r : Option (List Char × List Char)) : Option (List Char × List Char) :=
  r.map fun (cs, rest) => (c :: cs, rest)

/-- Reads a literal from behind its first quote: its string, and what follows the
    closing quote. Passed over, a surrogate reads as the replacement character. -/
def readLiteral (mode : Reading) : List Char → Option (List Char × List Char)
  | [] => none
  | '"' :: rest => some ([], rest)
  | '\\' :: 'u' :: a :: b :: c :: d :: rest =>
    match hexQuad? a b c d with
    | none => none
    | some n =>
      if mode = .skipping then
        consRead (Char.ofNat n) (readLiteral mode rest)
      else if isLowSurrogate n then
        none
      else if isHighSurrogate n then
        match rest with
        | '\\' :: 'u' :: a' :: b' :: c' :: d' :: rest' =>
          match hexQuad? a' b' c' d' with
          | none => none
          | some m =>
            if isLowSurrogate m then
              consRead (joinSurrogates n m) (readLiteral mode rest')
            else
              none
        | _ => none
      else
        consRead (Char.ofNat n) (readLiteral mode rest)
  | '\\' :: c :: rest =>
    match letterEscape? c with
    | none => none
    | some c => consRead c (readLiteral mode rest)
  | c :: rest =>
    if c.toNat < 32 ∨ c = '\\' then none else consRead c (readLiteral mode rest)

end SyntheticLoad.Json
