import SyntheticLoad.Text.Cut
import SyntheticLoad.Text.Hex
import SyntheticLoad.Text.Numeral
import SyntheticLoad.Url.Basic

/-!
# Addresses of 128 bits

Eight pieces of up to four hexadecimal digits with colons between them. Once, two
colons may stand for one piece of zeros or more, and the last two pieces may be
written as four decimal bytes with dots between them.
-/

namespace SyntheticLoad.Host

open Text

/-- A piece: one to four hexadecimal digits. -/
def ipv6Piece? (cs : List Char) : Option Nat :=
  if cs.isEmpty || 4 < cs.length then
    none
  else
    cs.foldl (fun n c => do pure ((← n) * 16 + (← hexValue? c))) (some 0)

/-- A decimal byte without leading zeros. -/
def decimalByte? (cs : List Char) : Option Nat :=
  match cs with
  | [] => none
  | ['0'] => some 0
  | '0' :: _ => none
  | cs => if cs.head? = some '+' then none else (readNat 255 cs).toOption

/-- Four decimal bytes as two pieces. -/
def dottedPieces? (cs : List Char) : Option (List Nat) :=
  match (split '.' cs).mapM decimalByte? with
  | some [a, b, c, d] => some [a * 256 + b, c * 256 + d]
  | _ => none

/-- Pieces with colons between them. -/
def hexPieces? (groups : List (List Char)) : Option (List Nat) := groups.mapM ipv6Piece?

/-- Pieces with colons between them, the last of which may be decimal bytes. -/
def mixedPieces? (groups : List (List Char)) : Option (List Nat) :=
  match groups.getLast? with
  | none => some []
  | some last =>
    if last.contains '.' then do
      let pieces ← hexPieces? groups.dropLast
      let tail ← dottedPieces? last
      pure (pieces ++ tail)
    else
      hexPieces? groups

/-- The groups of a text between its colons; none if it is empty. -/
def groups (cs : List Char) : List (List Char) :=
  if cs.isEmpty then [] else split ':' cs

/-- The text before and after the first two colons in a row. -/
def cutDoubleColon : List Char → Option (List Char × List Char)
  | [] => none
  | ':' :: ':' :: rest => some ([], rest)
  | c :: rest => (cutDoubleColon rest).map fun (before, after) => (c :: before, after)

/-- The pieces of an address. -/
def ipv6Pieces? (cs : List Char) : Option (List Nat) :=
  match cutDoubleColon cs with
  | none => do
    let pieces ← mixedPieces? (groups cs)
    if pieces.length = 8 then some pieces else none
  | some (before, after) => do
    let front ← hexPieces? (groups before)
    let back ← mixedPieces? (groups after)
    let given := front.length + back.length
    if given ≤ 7 then some (front ++ List.replicate (8 - given) 0 ++ back) else none

/-- The address between brackets. -/
def readIpv6 (cs : List Char) : Except UrlError (List Nat) :=
  match ipv6Pieces? cs with
  | none => .error .invalidIpv6
  | some pieces => .ok pieces

end SyntheticLoad.Host
