import SyntheticLoad.Decimal.Binary

/-!
# The shortest decimal of a float

The reals that round to a float form an interval around it: half way to either
neighbour, with the ends included if the significand is even. The shortest
decimal of the float is the decimal in that interval with the fewest digits, and
of two such decimals the one nearer to the float; an exact tie goes to the even
digit.

For each number of digits only two decimals have to be tried, the float's two
neighbours on the grid of decimals with that many digits: if any decimal of the
grid lies in the interval, one of these two does.
-/

namespace SyntheticLoad.Decimal

/-- A positive decimal `digits * 10 ^ exponent`. -/
structure Scaled where
  digits : Nat
  exponent : Int
  deriving DecidableEq, Repr

/-- The lower end of the interval that rounds to `b`. -/
def Binary.lowerEnd (b : Binary) : Fraction :=
  Fraction.ofBinary (4 * b.significand - (if b.narrowBelow then 1 else 2)) (b.exponent - 2)

/-- The upper end of the interval that rounds to `b`. -/
def Binary.upperEnd (b : Binary) : Fraction :=
  Fraction.ofBinary (4 * b.significand + 2) (b.exponent - 2)

/-- Whether one quotient is below another, or equal to it if ends are `included`. -/
def Fraction.below (included : Bool) (x y : Fraction) : Bool :=
  if included then x.num * y.den ≤ y.num * x.den else x.num * y.den < y.num * x.den

/-- Whether a decimal rounds to `b`. -/
def Binary.rounds (b : Binary) (d : Scaled) : Bool :=
  let x := (Fraction.mk d.digits 1).scale d.exponent
  let included := b.significand % 2 == 0
  Fraction.below included b.lowerEnd x && Fraction.below included x b.upperEnd

/-- The exponent of the first digit of a positive quotient: the largest `e` with
    `10 ^ e ≤ x`. The binary logarithm gives it up to one. -/
def Fraction.magnitude (x : Fraction) : Int :=
  let guess : Int := ((x.num.log2 : Int) - (x.den.log2 : Int)) * 30103 / 100000
  let reaches (e : Int) : Bool :=
    let y := x.scale (-e)
    y.den ≤ y.num
  if reaches (guess + 1) then guess + 1
  else if reaches guess then guess
  else guess - 1

/-- The nearest of the decimals with last digit at `10 ^ e` that round to `b`. -/
def Binary.onGrid (b : Binary) (e : Int) : Option Scaled :=
  let x := b.value.scale (-e)
  let q := x.num / x.den
  let r := x.num % x.den
  let low : Scaled := ⟨q, e⟩
  let high : Scaled := ⟨q + 1, e⟩
  let lowRounds := b.rounds low
  let highRounds := b.rounds high
  if lowRounds && highRounds then
    if 2 * r < x.den then some low
    else if x.den < 2 * r then some high
    else if q % 2 = 0 then some low
    else some high
  else if lowRounds then some low
  else if highRounds then some high
  else none

/-- The first hit among grids of more and more digits, from the grid at `10 ^ e` on. -/
def Binary.searchGrids (b : Binary) (e : Int) : Nat → Scaled
  | 0 => ⟨(b.value.scale (-e)).num / (b.value.scale (-e)).den, e⟩
  | n + 1 =>
    match b.onGrid e with
    | some d => d
    | none => b.searchGrids (e - 1) n

/-- The same decimal without zeros at its end; at most `fuel` of them go. -/
def Scaled.stripZeros (d : Scaled) : Nat → Scaled
  | 0 => d
  | n + 1 =>
    if d.digits ≠ 0 ∧ d.digits % 10 = 0 then
      Scaled.stripZeros ⟨d.digits / 10, d.exponent + 1⟩ n
    else
      d

/-- The shortest decimal that rounds to a positive float. Seventeen digits are
    always enough. -/
def shortest (b : Binary) : Scaled :=
  (b.searchGrids b.value.magnitude 17).stripZeros 17

end SyntheticLoad.Decimal
