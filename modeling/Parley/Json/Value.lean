import Parley.Dictionary
import Parley.Numeric.Binary64
import Parley.Numeric.Decimal

/-!
# JSON values

A number is an integer when it was written as one and fits into 64 bits, and a double-precision
number otherwise, so that `1` and `1.0` are different values. The members of an object are kept in
the order of their names.
-/

namespace Parley.Json

/-- A JSON number. -/
inductive Number where
  | int (i : Int)
  | float (x : Binary64)
deriving DecidableEq

/-- Equality of numbers; an integer never equals a floating-point number, and the two floating
zeros are equal. -/
def Number.same : Number → Number → Bool
  | .int i, .int j => i == j
  | .float x, .float y => x.same y
  | _, _ => false

/-- Whether a number is zero. -/
def Number.isZero : Number → Bool
  | .int i => i == 0
  | .float x => x.isZero

/-- A JSON value. -/
inductive Value where
  | null
  | bool (b : Bool)
  | number (n : Number)
  | string (s : String)
  | array (items : List Value)
  | object (members : List (String × Value))

namespace Value

mutual

/-- Equality of values. -/
def same : Value → Value → Bool
  | .null, .null => true
  | .bool a, .bool b => a == b
  | .number a, .number b => a.same b
  | .string a, .string b => a == b
  | .array xs, .array ys => sameItems xs ys
  | .object xs, .object ys => sameMembers xs ys
  | _, _ => false

/-- Equality of the items of two arrays. -/
def sameItems : List Value → List Value → Bool
  | [], [] => true
  | x :: xs, y :: ys => same x y && sameItems xs ys
  | _, _ => false

/-- Equality of the members of two objects. -/
def sameMembers : List (String × Value) → List (String × Value) → Bool
  | [], [] => true
  | (k, x) :: xs, (l, y) :: ys => k == l && same x y && sameMembers xs ys
  | _, _ => false

end

/-- An integer as a value. -/
def ofInt (i : Int) : Value := .number (.int i)

/-- The integer of a value that fits into 64 bits with a sign. -/
def toInt? : Value → Option Int
  | .number (.int i) => if Decimal.isSigned i then some i else none
  | _ => none

/-- Whether a value counts as a raised flag: `true`, or a number other than zero. -/
def isRaised : Value → Bool
  | .bool b => b
  | .number n => !n.isZero
  | _ => false

end Value

end Parley.Json
