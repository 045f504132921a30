/-!
# Decimal numerals

Writing: `digits n` are the decimal digits of `n`, and `padded w n` at least `w`
of them. Reading: a numeral is an optional sign and at least one ASCII digit,
leading zeros allowed; nothing else may stand before, between or after. Readers
go from left to right and stop at the first fault, so a numeral that is both too
large and ill-formed is reported for what comes first (`NumeralError`).
-/

namespace SyntheticLoad.Text

/-- The digit of a number below ten. -/
def digit (d : Nat) : Char := Char.ofNat (48 + d)

/-- The decimal digits of a number, without leading zeros; `0` is one digit. -/
def digits (n : Nat) : List Char :=
  if n < 10 then
    [digit n]
  else
    digits (n / 10) ++ [digit (n % 10)]

/-- The decimal numeral of a number, as it stands in a message. -/
def numeral (n : Nat) : String := String.ofList (digits n)

/-- The decimal digits of a number, filled up with zeros to at least `width`. -/
def padded (width n : Nat) : List Char :=
  let ds := digits n
  List.replicate (width - ds.length) '0' ++ ds

/-- The decimal numeral of an integer, with a sign if it is negative. -/
def integer : Int → List Char
  | .ofNat n => digits n
  | .negSucc n => '-' :: digits (n + 1)

/-- The value of an ASCII digit. -/
def digitValue? (c : Char) : Option Nat :=
  if '0' ≤ c ∧ c ≤ '9' then some (c.toNat - 48) else none

/-- Why a text is no numeral of the wanted range. -/
inductive NumeralError
  /-- There is nothing to read. -/
  | empty
  /-- A character stands where a digit has to. -/
  | invalidDigit
  /-- The number lies above the range. -/
  | tooLarge
  /-- The number lies below the range. -/
  | tooSmall
  deriving DecidableEq, Repr

/-- The wording of a numeral's fault. -/
def NumeralError.message : NumeralError → String
  | .empty => "cannot parse integer from empty string"
  | .invalidDigit => "invalid digit found in string"
  | .tooLarge => "number too large to fit in target type"
  | .tooSmall => "number too small to fit in target type"

/-- Reads digits into a number that may not pass `bound`; `beyond` is the fault
    of passing it. -/
def readDigits (bound : Nat) (beyond : NumeralError) :
    Nat → List Char → Except NumeralError Nat
  | n, [] => .ok n
  | n, c :: cs =>
    match digitValue? c with
    | none => .error .invalidDigit
    | some d =>
      if bound < n * 10 + d then .error beyond else readDigits bound beyond (n * 10 + d) cs

/-- Reads a number from `0` to `bound`, with an optional plus sign. -/
def readNat (bound : Nat) : List Char → Except NumeralError Nat
  | [] => .error .empty
  | ['+'] => .error .invalidDigit
  | '+' :: cs => readDigits bound .tooLarge 0 cs
  | cs => readDigits bound .tooLarge 0 cs

/-- The largest number of 64 bits. -/
def maxWord : Nat := 18446744073709551615

/-- Reads a number of 64 bits. -/
def readWord (cs : List Char) : Except NumeralError UInt64 :=
  (readNat maxWord cs).map UInt64.ofNat

/-- The largest signed number of 64 bits. -/
def maxInt64 : Nat := 9223372036854775807

/-- Reads a signed number of 64 bits, with an optional sign. -/
def readInt64 : List Char → Except NumeralError Int64
  | [] => .error .empty
  | ['+'] => .error .invalidDigit
  | ['-'] => .error .invalidDigit
  | '+' :: cs => (readDigits maxInt64 .tooLarge 0 cs).map fun n => Int64.ofInt n
  | '-' :: cs => (readDigits (maxInt64 + 1) .tooSmall 0 cs).map fun n => Int64.ofInt (-n)
  | cs => (readDigits maxInt64 .tooLarge 0 cs).map fun n => Int64.ofInt n

end SyntheticLoad.Text
