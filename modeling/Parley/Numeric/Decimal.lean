/-!
# Decimal numbers in text

Natural numbers and integers written in decimal digits, and the bounded numbers that are read back
from digits.
-/

namespace Parley.Decimal

/-- The digit that stands for `n`, for `n` below ten. -/
def digit (n : Nat) : Char :=
  Char.ofNat ('0'.toNat + n)

/-- The value of a decimal digit. -/
def digitValue? (c : Char) : Option Nat :=
  if '0' ≤ c ∧ c ≤ '9' then some (c.toNat - '0'.toNat) else none

/-- The decimal digits of a number, without leading zeros. -/
def digits (n : Nat) : List Char :=
  if n < 10 then [digit n] else digits (n / 10) ++ [digit (n % 10)]

/-- A natural number as text. -/
def ofNat (n : Nat) : String :=
  String.ofList (digits n)

/-- An integer as text, with a minus sign when it is negative. -/
def ofInt : Int → String
  | .ofNat n => ofNat n
  | .negSucc n => "-" ++ ofNat (n + 1)

/-- Why a text is not a bounded number. -/
inductive Error where
  | empty
  | invalidDigit
  | tooLarge
deriving DecidableEq

/-- The wording of an error. -/
def Error.message : Error → String
  | .empty => "cannot parse integer from empty string"
  | .invalidDigit => "invalid digit found in string"
  | .tooLarge => "number too large to fit in target type"

/-- Reads digits on top of the value so far, which stays below `bound`; the first fault counts. -/
def readDigits (bound : Nat) : Nat → List Char → Except Error Nat
  | value, [] => .ok value
  | value, c :: cs =>
    match digitValue? c with
    | none => .error .invalidDigit
    | some d =>
      if value * 10 + d < bound then readDigits bound (value * 10 + d) cs else .error .tooLarge

/-- Reads a number below `bound`: an optional plus sign, then at least one digit. -/
def read (bound : Nat) : List Char → Except Error Nat
  | [] => .error .empty
  | ['+'] => .error .invalidDigit
  | '+' :: cs => readDigits bound 0 cs
  | cs => readDigits bound 0 cs

/-- One more than the largest unsigned number of 64 bits. -/
def wordBound : Nat := 18446744073709551616

/-- The smallest signed number of 64 bits. -/
def minSigned : Int := -9223372036854775808

/-- The largest signed number of 64 bits. -/
def maxSigned : Int := 9223372036854775807

/-- Whether an integer fits into 64 bits with a sign. -/
def isSigned (i : Int) : Bool :=
  minSigned ≤ i && i ≤ maxSigned

/-- The nearest signed number of 64 bits. -/
def clampSigned (i : Int) : Int :=
  max minSigned (min maxSigned i)

end Parley.Decimal
