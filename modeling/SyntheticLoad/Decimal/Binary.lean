/-!
# Binary floating-point numbers, exactly

A finite float is a sign and a whole multiple of a power of two. `Binary.ofBits`
reads the three off the 64 bits, and `Fraction` holds such a number as a quotient
of natural numbers, so that everything the decimal writers compare is compared
exactly.
-/

namespace SyntheticLoad.Decimal

/-- A finite float without its sign: `significand * 2 ^ exponent`. -/
structure Binary where
  /-- The whole multiple. -/
  significand : Nat
  /-- The power of two. -/
  exponent : Int
  /-- Whether the next smaller float is only half as far away as the next larger
      one, which is so at the powers of two. -/
  narrowBelow : Bool
  deriving DecidableEq, Repr

/-- What the 64 bits of a float stand for. -/
inductive Reading
  | nan
  | infinite (negative : Bool)
  | finite (negative : Bool) (magnitude : Binary)
  deriving DecidableEq, Repr

/-- The number of fractions that a float can have. -/
def fractions : Nat := 4503599627370496

/-- The number of exponents that a float can have. -/
def exponents : Nat := 2048

/-- Reads the bits of a float: a sign, eleven bits of exponent, 52 bits of fraction. -/
def Reading.ofBits (bits : UInt64) : Reading :=
  let n := bits.toNat
  let negative := decide (exponents * fractions ≤ n)
  let e : Nat := n / fractions % exponents
  let f : Nat := n % fractions
  if e = exponents - 1 then
    if f = 0 then .infinite negative else .nan
  else if e = 0 then
    .finite negative ⟨f, -1074, false⟩
  else
    .finite negative ⟨fractions + f, Int.ofNat e - 1075, f == 0 && e != 1⟩

/-- A quotient of natural numbers. -/
structure Fraction where
  num : Nat
  den : Nat
  deriving DecidableEq, Repr

/-- `m * 2 ^ e` as a quotient. -/
def Fraction.ofBinary (m : Nat) : Int → Fraction
  | .ofNat e => ⟨m * Nat.pow 2 e, 1⟩
  | .negSucc e => ⟨m, Nat.pow 2 (e + 1)⟩

/-- The quotient times a power of ten. -/
def Fraction.scale (x : Fraction) : Int → Fraction
  | .ofNat e => ⟨x.num * Nat.pow 10 e, x.den⟩
  | .negSucc e => ⟨x.num, x.den * Nat.pow 10 (e + 1)⟩

/-- The value of a binary number. -/
def Binary.value (b : Binary) : Fraction := Fraction.ofBinary b.significand b.exponent

end SyntheticLoad.Decimal
