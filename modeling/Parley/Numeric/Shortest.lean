import Parley.Numeric.Binary64
import Parley.Numeric.Decimal

/-!
# Shortest decimal text

A double-precision number is written with the fewest digits that read back as the same number, and
of those with the digits nearest to its exact value. Values from 1e-5 up to below 1e16 are written
positionally with at least one digit after the point, all others with an exponent.
-/

namespace Parley.Shortest

/-- A decimal `digits * 10 ^ exponent`. -/
structure Digits where
  digits : Nat
  exponent : Int

/-- The numerator and denominator of `n / d * 10 ^ e`. -/
def scaledTen (n d : Nat) (e : Int) : Nat × Nat :=
  if 0 ≤ e then (n * Nat.pow 10 e.toNat, d) else (n, d * Nat.pow 10 (-e).toNat)

/-- The ends of the interval of values that round to `m`, as numerators over one denominator,
with the exact value between them: lower end, value, upper end, denominator. -/
def interval (m : Magnitude) : Nat × Nat × Nat × Nat :=
  let (value, d) := Magnitude.scaled (4 * m.mantissa) 4 m.exponent
  let unit := (Magnitude.scaled 1 4 m.exponent).1
  let below :=
    if m.mantissa = Magnitude.halfMantissa ∧ Magnitude.minExponent < m.exponent then 1 else 2
  (value - below * unit, value, value + 2 * unit, d)

/-- The power of ten just above `n / d`: the least `k` with `n / d < 10 ^ k`. -/
def scaleOf (n d : Nat) : Int :=
  let estimate : Int := (((n.log2 : Int) - (d.log2 : Int)) * 30103 / 100000) - 1
  let isAbove (k : Int) : Bool :=
    let (a, b) := scaledTen n d (-k)
    a < b
  if isAbove estimate then estimate
  else if isAbove (estimate + 1) then estimate + 1
  else if isAbove (estimate + 2) then estimate + 2
  else estimate + 3

/-- The decimal with at most `count` digits inside the interval that is nearest to the value, an
exact tie going to the even digit. -/
def candidate? (m : Magnitude) (scale : Int) (count : Nat) : Option Digits :=
  let (low, value, high, d) := interval m
  let exponent := scale - count
  let even := m.mantissa % 2 = 0
  let (v, b) := scaledTen value d (-exponent)
  let lowDigits := scaledTen low d (-exponent)
  let highDigits := scaledTen high d (-exponent)
  let inside (k : Nat) : Bool :=
    if even then lowDigits.1 ≤ k * b && k * b ≤ highDigits.1
    else lowDigits.1 < k * b && k * b < highDigits.1
  let down := v / b
  let up := down + 1
  let rest := v % b
  match inside down, inside up with
  | true, true =>
    let nearest :=
      if 2 * rest < b then down else if b < 2 * rest then up else if down % 2 = 0 then down else up
    some ⟨nearest, exponent⟩
  | true, false => some ⟨down, exponent⟩
  | false, true => some ⟨up, exponent⟩
  | false, false => none

/-- The first count of digits, out of a number of attempts, at which a decimal reads back. -/
def search (m : Magnitude) (scale : Int) : Nat → Nat → Option Digits
  | 0, _ => none
  | attempts + 1, count =>
    match candidate? m scale count with
    | some found => some found
    | none => search m scale attempts (count + 1)

/-- The digits without the zeros at their end, the exponent raised in their stead; `fuel` bounds
how many are taken off. -/
def dropZeros : Nat → Digits → Digits
  | 0, x => x
  | fuel + 1, x =>
    if x.digits % 10 = 0 ∧ x.digits ≠ 0 then dropZeros fuel ⟨x.digits / 10, x.exponent + 1⟩ else x

/-- The shortest decimal that reads back as a magnitude that is not zero. -/
def decimal (m : Magnitude) : Digits :=
  let (_, value, _, d) := interval m
  let scale := scaleOf value d
  dropZeros 20 ((search m scale 17 1).getD ⟨0, 0⟩)

/-- A number of zeros. -/
def zeros (n : Int) : List Char :=
  List.replicate n.toNat '0'

/-- A decimal in the notation that its size asks for. -/
def layout (x : Digits) : List Char :=
  let ds := Decimal.digits x.digits
  let count : Int := ds.length
  let point : Int := count + x.exponent
  if 0 ≤ x.exponent ∧ point ≤ 16 then
    ds ++ zeros x.exponent ++ ['.', '0']
  else if 0 < point ∧ point ≤ 16 then
    ds.take point.toNat ++ '.' :: ds.drop point.toNat
  else if -5 < point ∧ point ≤ 0 then
    '0' :: '.' :: zeros (-point) ++ ds
  else
    let sign := if 0 ≤ point - 1 then ['+'] else []
    let fraction := if ds.length = 1 then [] else '.' :: ds.drop 1
    ds.take 1 ++ fraction ++ 'e' :: sign ++ (Decimal.ofInt (point - 1)).toList

/-- A double-precision number as text. -/
def text (x : Binary64) : String :=
  let sign := if x.negative then ['-'] else []
  let body := if x.isZero then ['0', '.', '0'] else layout (decimal x.magnitude)
  String.ofList (sign ++ body)

end Parley.Shortest
