/-!
# Finite double-precision numbers

A finite number of the binary64 format is a sign and a magnitude `mantissa * 2 ^ exponent`. The
magnitude is kept in the one form in which the mantissa has 53 bits, or fewer at the least
exponent. Arithmetic is exact rational arithmetic followed by one rounding to the nearest number,
ties to the even mantissa.
-/

namespace Parley

/-- The magnitude of a finite double-precision number. -/
structure Magnitude where
  mantissa : Nat
  exponent : Int
deriving DecidableEq

namespace Magnitude

/-- The least exponent. -/
def minExponent : Int := -1074

/-- The greatest exponent. -/
def maxExponent : Int := 971

/-- The least mantissa of 53 bits. -/
def halfMantissa : Nat := 4503599627370496

/-- Zero. -/
def zero : Magnitude := ⟨0, minExponent⟩

/-- Whether the magnitude is zero. -/
def isZero (m : Magnitude) : Bool := m.mantissa == 0

/-- The numerator and denominator of `n * 2 ^ e / d`. -/
def scaled (n d : Nat) (e : Int) : Nat × Nat :=
  if 0 ≤ e then (n <<< e.toNat, d) else (n, d <<< (-e).toNat)

/-- The quotient rounded to the nearest natural number, a half to the even one. -/
def roundQuotient (n d : Nat) : Nat :=
  let q := n / d
  let r := n % d
  if 2 * r < d then q else if d < 2 * r then q + 1 else q + q % 2

/-- The exponent at which `n / d` has a mantissa of 53 bits, but not below the least one. -/
def exponentOf (n d : Nat) : Int :=
  let guess : Int := (n.log2 : Int) - (d.log2 : Int) - 53
  let (a, b) := scaled n d (-guess)
  let exact := if a / b < 2 * halfMantissa then guess else guess + 1
  max exact minExponent

/-- The magnitude nearest to `n / d`, or nothing when it lies beyond the greatest one. -/
def ofQuotient? (n d : Nat) : Option Magnitude :=
  if n = 0 then
    some zero
  else
    let e := exponentOf n d
    let (a, b) := scaled n d (-e)
    let m := roundQuotient a b
    let (m, e) := if m < 2 * halfMantissa then (m, e) else (halfMantissa, e + 1)
    if e ≤ maxExponent then some ⟨m, e⟩ else none

/-- The magnitude nearest to a natural number. -/
def ofNat? (n : Nat) : Option Magnitude :=
  ofQuotient? n 1

/-- The exact value as a fraction. -/
def toQuotient (m : Magnitude) : Nat × Nat :=
  scaled m.mantissa 1 m.exponent

/-- The rounded product, or nothing when it is too large. -/
def mul? (x y : Magnitude) : Option Magnitude :=
  let (a, b) := x.toQuotient
  let (c, d) := y.toQuotient
  ofQuotient? (a * c) (b * d)

/-- The rounded quotient, or nothing when it is too large; the divisor is not zero. -/
def div? (x y : Magnitude) : Option Magnitude :=
  let (a, b) := x.toQuotient
  let (c, d) := y.toQuotient
  ofQuotient? (a * d) (b * c)

/-- The magnitude nearest to a power of ten; exponents up to 308 have one. -/
def powerOfTen (e : Nat) : Magnitude :=
  (ofNat? (Nat.pow 10 e)).getD zero

end Magnitude

/-- A finite double-precision number; zero has two signs. -/
structure Binary64 where
  negative : Bool
  magnitude : Magnitude
deriving DecidableEq

namespace Binary64

/-- Whether the number is a zero of either sign. -/
def isZero (x : Binary64) : Bool := x.magnitude.isZero

/-- Equality as numbers: the two zeros are equal. -/
def same (x y : Binary64) : Bool :=
  x == y || (x.isZero && y.isZero)

end Binary64

end Parley
