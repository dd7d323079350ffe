import Parley.Json.Fault

/-!
# Reading characters of JSON text

The state of a reader is the text that is left. This module reads what lies below values: blanks,
bare words, the inside of strings, and numbers.
-/

namespace Parley.Json

/-- A step that reads from the front of a text. -/
abbrev Reader := StateT (List Char) (Except Fault)

namespace Reader

/-- The blanks between the parts of a value. -/
def isSpace (c : Char) : Bool :=
  c == ' ' || c == '\n' || c == '\t' || c == '\r'

/-- The next character that is not blank, which stays in the text. -/
def peek : Reader (Option Char) := fun cs =>
  let rest := cs.dropWhile isSpace
  .ok (rest.head?, rest)

/-- Passes over one character. -/
def advance : Reader Unit := fun cs => .ok ((), cs.drop 1)

/-- Reads the given characters, the rest of a bare word. -/
def word : List Char → Reader Unit
  | [] => pure ()
  | w :: ws => fun cs =>
    match cs with
    | [] => .error .endInValue
    | c :: rest => if c = w then word ws rest else .error .expectedIdent

/-! ## Strings -/

/-- The value of a hexadecimal digit. -/
def hexDigit? (c : Char) : Option Nat :=
  if '0' ≤ c ∧ c ≤ '9' then some (c.toNat - '0'.toNat)
  else if 'a' ≤ c ∧ c ≤ 'f' then some (c.toNat - 'a'.toNat + 10)
  else if 'A' ≤ c ∧ c ≤ 'F' then some (c.toNat - 'A'.toNat + 10)
  else none

/-- The four hexadecimal digits of an escape. They must fit into the bytes that are left. -/
def hexCode : Reader Nat := fun cs =>
  match cs with
  | a :: b :: c :: d :: rest =>
    match hexDigit? a, hexDigit? b, hexDigit? c, hexDigit? d with
    | some a, some b, some c, some d => .ok (((a * 16 + b) * 16 + c) * 16 + d, rest)
    | _, _, _, _ => .error .invalidEscape
  | short =>
    if 4 ≤ (String.ofList short).utf8ByteSize then .error .invalidEscape else .error .endInString

/-- Whether a code is the first half of a surrogate pair. -/
def isHighSurrogate (n : Nat) : Bool := 0xd800 ≤ n && n ≤ 0xdbff

/-- Whether a code is the second half of a surrogate pair. -/
def isLowSurrogate (n : Nat) : Bool := 0xdc00 ≤ n && n ≤ 0xdfff

/-- Reads one character that must follow the first half of a surrogate pair. -/
def pairPart (wanted : Char) : Reader Unit := fun cs =>
  match cs with
  | [] => .error .endInString
  | c :: rest => if c = wanted then .ok ((), rest) else .error .endInEscape

/-- The character of an escape by number; two escapes make a character beyond U+FFFF. -/
def numberedChar : Reader Char := do
  let n ← hexCode
  if isLowSurrogate n then
    throw .loneSurrogate
  else if isHighSurrogate n then do
    pairPart '\\'
    pairPart 'u'
    let low ← hexCode
    if isLowSurrogate low then
      return Char.ofNat (0x10000 + (n - 0xd800) * 0x400 + (low - 0xdc00))
    else
      throw .loneSurrogate
  else
    return Char.ofNat n

/-- The character that a one-letter escape stands for. -/
def letterEscape? (c : Char) : Option Char :=
  if c == '\"' then some '\"'
  else if c == '\\' then some '\\'
  else if c == '/' then some '/'
  else if c == 'b' then some '\x08'
  else if c == 'f' then some '\x0c'
  else if c == 'n' then some '\n'
  else if c == 'r' then some '\r'
  else if c == 't' then some '\t'
  else none

/-- The character after a backslash. -/
def escaped : Reader Char := fun cs =>
  match cs with
  | [] => .error .endInString
  | 'u' :: rest => numberedChar rest
  | c :: rest =>
    match letterEscape? c with
    | some meant => .ok (meant, rest)
    | none => .error .invalidEscape

/-- The characters of a string up to its closing quote. Each step passes at least one character,
so that `fuel` may be the length of the text. -/
def stringChars : (fuel : Nat) → Reader (List Char)
  | 0 => throw .endInString
  | fuel + 1 => fun cs =>
    match cs with
    | [] => .error .endInString
    | '\"' :: rest => .ok ([], rest)
    | '\\' :: rest => (do
        let c ← escaped
        let more ← stringChars fuel
        return c :: more) rest
    | c :: rest =>
      if c.toNat < 0x20 then .error .controlCharacter
      else (do
        let more ← stringChars fuel
        return c :: more) rest

/-- A string whose opening quote was passed. -/
def stringRest : Reader String := fun cs =>
  (do return String.ofList (← stringChars (cs.length + 1))) cs

/-! ## Numbers -/

/-- The decimal digits at the front of the text. -/
def digitRun : Reader (List Nat) := fun cs =>
  .ok ((cs.takeWhile (Decimal.digitValue? · |>.isSome)).filterMap Decimal.digitValue?,
    cs.dropWhile (Decimal.digitValue? · |>.isSome))

/-- Puts digits behind a number as long as the result fits into 64 bits; also tells how many digits
were left over. -/
def gather : Nat → List Nat → Nat × Nat
  | value, [] => (value, 0)
  | value, d :: ds =>
    if value * 10 + d < Decimal.wordBound then gather (value * 10 + d) ds
    else (value, ds.length + 1)

/-- Scales a magnitude by a power of ten, with one rounded multiplication or division by a power up
to 308 after as many divisions by the 308th as it takes; `fuel` bounds those. -/
def scaleByTen : (fuel : Nat) → Magnitude → Int → Except Fault Magnitude
  | 0, m, _ => .ok m
  | fuel + 1, m, e =>
    if e.natAbs ≤ 308 then
      if 0 ≤ e then
        match m.mul? (.powerOfTen e.toNat) with
        | some product => .ok product
        | none => .error .numberOutOfRange
      else
        .ok ((m.div? (.powerOfTen (-e).toNat)).getD .zero)
    else if m.isZero then .ok m
    else if 0 ≤ e then .error .numberOutOfRange
    else scaleByTen fuel ((m.div? (.powerOfTen 308)).getD .zero) (e + 308)

/-- The floating-point number `significand * 10 ^ exponent`. -/
def floatOf (negative : Bool) (significand : Nat) (exponent : Int) : Except Fault Number := do
  let m := (Magnitude.ofNat? significand).getD .zero
  let scaled ← scaleByTen (exponent.natAbs / 308 + 1) m exponent
  return .float ⟨negative, scaled⟩

/-- The number of a significand without fraction and exponent. -/
def wholeNumber (negative : Bool) (significand : Nat) : Number :=
  if !negative then .int significand
  else if 0 < significand ∧ significand ≤ 9223372036854775808 then .int (-significand)
  else .float ⟨true, (Magnitude.ofNat? significand).getD .zero⟩

/-- The largest exponent that is added up; beyond it only zero is still a number. -/
def exponentBound : Nat := 2147483648

/-- Reads the part after the exponent mark. -/
def exponentPart (negative : Bool) (significand : Nat) (exponent : Int) : Reader Number := do
  let cs ← get
  let down := cs.head? == some '-'
  if down || cs.head? == some '+' then
    advance
  match (← get) with
  | [] => throw .endInValue
  | c :: _ =>
    if (Decimal.digitValue? c).isNone then
      throw .invalidNumber
    else do
      let ds ← digitRun
      let e := ds.foldl (fun n d => n * 10 + d) 0
      if e < exponentBound then
        floatOf negative significand (if down then exponent - e else exponent + e)
      else if significand ≠ 0 ∧ !down then
        throw .numberOutOfRange
      else
        return .float ⟨negative, .zero⟩

/-- Whether the text goes on with an exponent mark. -/
def atExponent : Reader Bool := fun cs =>
  .ok (cs.head? == some 'e' || cs.head? == some 'E', cs)

/-- Reads the part after the point: at least one digit, then maybe an exponent. -/
def fractionPart (negative : Bool) (significand : Nat) (exponent : Int) : Reader Number := do
  let ds ← digitRun
  if ds.isEmpty then
    match (← get) with
    | [] => throw .endInValue
    | _ :: _ => throw .invalidNumber
  else do
    let (significand, left) := gather significand ds
    let exponent := exponent - (ds.length - left : Nat)
    if ← atExponent then do
      advance
      exponentPart negative significand exponent
    else
      floatOf negative significand exponent

/-- Reads a number whose minus sign, if it has one, was passed. -/
def numberRest (negative : Bool) : Reader Number := do
  let cs ← get
  match cs with
  | [] => throw .endInValue
  | c :: rest =>
    if (Decimal.digitValue? c).isNone then
      throw .invalidNumber
    else if c = '0' ∧ (rest.head?.bind Decimal.digitValue?).isSome then
      throw .invalidNumber
    else do
      let ds ← digitRun
      let (significand, left) := gather 0 ds
      match (← get).head? with
      | some '.' => do
        advance
        fractionPart negative significand left
      | _ =>
        if ← atExponent then do
          advance
          exponentPart negative significand left
        else if left = 0 then
          return wholeNumber negative significand
        else
          floatOf negative significand left

/-- Reads a number from its first character on. -/
def number : Reader Number := do
  if (← get).head? == some '-' then do
    advance
    numberRest true
  else
    numberRest false

end Reader

end Parley.Json
