import SyntheticLoad.Text.Cut
import SyntheticLoad.Text.Hex
import SyntheticLoad.Text.Numeral
import SyntheticLoad.Url.Basic

/-!
# Addresses of 32 bits

A host whose last part is a number is an address of up to four parts with dots
between them; one dot at the end does not count. A part is decimal, octal after a
`0`, or hexadecimal after `0x`. The parts but the last are bytes, and the last one
fills what is left.
-/

namespace SyntheticLoad.Host

open Text

/-- The value of digits in a base, if they all are digits of it. -/
def valueInBase (base : Nat) (cs : List Char) : Option Nat :=
  cs.foldl
    (fun n c => do
      let n ← n
      let d ← hexValue? c
      if d < base then some (n * base + d) else none)
    (some 0)

/-- The number that a part stands for. -/
def ipv4Part? : List Char → Option Nat
  | [] => none
  | '0' :: 'x' :: cs => valueInBase 16 cs
  | '0' :: 'X' :: cs => valueInBase 16 cs
  | ['0'] => some 0
  | '0' :: cs => valueInBase 8 cs
  | cs => valueInBase 10 cs

/-- The parts of a host, without an empty one at the end. -/
def dottedParts (cs : List Char) : List (List Char) :=
  let parts := split '.' cs
  if 1 < parts.length ∧ parts.getLast? = some [] then parts.dropLast else parts

/-- Whether the last part of a host is a number. -/
def endsInNumber (cs : List Char) : Bool :=
  match (dottedParts cs).getLast? with
  | none => false
  | some part =>
    (!part.isEmpty && part.all fun c => (digitValue? c).isSome) || (ipv4Part? part).isSome

/-- Puts the numbers of the parts together. -/
def joinIpv4 (parts : List Nat) : Option Nat :=
  let bytes := parts.dropLast
  match parts.getLast? with
  | none => none
  | some last =>
    if bytes.length ≤ 3 ∧ bytes.all (· ≤ 255) ∧ last < Nat.pow 256 (4 - bytes.length) then
      some (bytes.foldl (fun n b => n * 256 + b) 0 * Nat.pow 256 (4 - bytes.length) + last)
    else
      none

/-- The address that a host stands for. -/
def readIpv4 (cs : List Char) : Except UrlError Nat :=
  match (dottedParts cs).mapM ipv4Part? with
  | none => .error .invalidIpv4
  | some parts =>
    match joinIpv4 parts with
    | none => .error .invalidIpv4
    | some address => .ok address

end SyntheticLoad.Host
