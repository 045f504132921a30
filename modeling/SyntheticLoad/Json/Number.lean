import SyntheticLoad.Decimal.Shortest
import SyntheticLoad.Json.Basic
import SyntheticLoad.Text.Numeral

/-!
# Numbers of a document

An integer is written in decimal. A float is written by its shortest decimal: in
plain notation with at least one decimal when its first digit stands between the
fifth decimal place and the sixteenth digit before the point, and otherwise with
one digit before the point and an exponent that always has a sign
(`FloatLayout`). What is no finite number is written as `null`.
-/

namespace SyntheticLoad.Json

open Decimal Text

/-- Which exponents of the first digit are written in plain notation. -/
structure FloatLayout where
  /-- The least such exponent. -/
  leastPlain : Int
  /-- The least exponent above them. -/
  leastScientific : Int
  deriving Repr

/-- The layout of the numbers of a document. -/
def floatLayout : FloatLayout := ⟨-5, 16⟩

/-- A decimal in plain notation, with at least one digit on either side of the point. -/
def plainText (d : Scaled) : List Char :=
  match d.exponent with
  | .ofNat e => digits (d.digits * Nat.pow 10 e) ++ ['.', '0']
  | .negSucc e =>
    let unit := Nat.pow 10 (e + 1)
    digits (d.digits / unit) ++ '.' :: padded (e + 1) (d.digits % unit)

/-- A decimal with one digit before the point, its exponent being that of the first
    digit. A single digit has no point. -/
def scientificText (d : Scaled) (exponent : Int) : List Char :=
  let power := (if exponent < 0 then '-' else '+') :: digits exponent.natAbs
  match digits d.digits with
  | [] => []
  | [c] => c :: 'e' :: power
  | c :: cs => c :: '.' :: (cs ++ 'e' :: power)

/-- A positive decimal in the notation that the layout asks for. -/
def decimalText (layout : FloatLayout) (d : Scaled) : List Char :=
  let exponent := d.exponent + ((digits d.digits).length : Int) - 1
  if layout.leastPlain ≤ exponent ∧ exponent < layout.leastScientific then
    plainText d
  else
    scientificText d exponent

/-- The token of a finite float without its sign. -/
def magnitudeText (b : Binary) : List Char :=
  if b.significand = 0 then ['0', '.', '0'] else decimalText floatLayout (shortest b)

/-- An integer as a document. -/
def ofInt (n : Int) : Json := .number (String.ofList (integer n))

/-- A natural number as a document. -/
def ofNat (n : Nat) : Json := .number (String.ofList (digits n))

/-- A float as a document. -/
def ofFloat (x : Float) : Json :=
  match Decimal.Reading.ofBits x.toBits with
  | .nan => .null
  | .infinite _ => .null
  | .finite negative b =>
    let token := magnitudeText b
    .number (String.ofList (if negative then '-' :: token else token))

end SyntheticLoad.Json
