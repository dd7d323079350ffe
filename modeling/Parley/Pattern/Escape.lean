import Parley.Pattern.Look
import Parley.Pattern.Reading

/-!
# Escapes

What a backslash starts: characters by number or by name, classes of characters, properties, and
conditions on gaps. Escapes stand alone and in classes of characters alike.
-/

namespace Parley.Pattern.Reader

/-- A single element of a pattern or of a class. -/
inductive Atom where
  /-- A character; `isByte` tells whether it was written as two hexadecimal digits. -/
  | char (c : Char) (isByte : Bool)
  | look (condition : Look)
  | set (set : CharSet)

/-- The value of a hexadecimal digit. -/
def hexDigit? (c : Char) : Option Nat :=
  if '0' ≤ c ∧ c ≤ '9' then some (c.toNat - '0'.toNat)
  else if 'a' ≤ c ∧ c ≤ 'f' then some (c.toNat - 'a'.toNat + 10)
  else if 'A' ≤ c ∧ c ≤ 'F' then some (c.toNat - 'A'.toNat + 10)
  else none

/-- The character with a number. -/
def charOf (n : Nat) : Reader Char :=
  if n.isValidChar then return Char.ofNat n else throw .escapeHexInvalid

/-- Reads a fixed number of hexadecimal digits. -/
def hexDigits : (count : Nat) → (value : Nat) → Reader Nat
  | 0, value => return value
  | count + 1, value => do
    match hexDigit? (← next .escapeUnfinished) with
    | none => throw .escapeHexInvalidDigit
    | some d => do
      passWithBlanks
      hexDigits count (value * 16 + d)

/-- Reads hexadecimal digits up to a closing brace; `fuel` may be the length of the text. -/
def bracedHex : (fuel : Nat) → (value : Option Nat) → Reader Nat
  | 0, _ => throw .escapeUnfinished
  | fuel + 1, value => do
    let c ← next .escapeUnfinished
    if c = '\x7d' then do
      passWithBlanks
      match value with
      | some n => return n
      | none => throw .escapeHexEmpty
    else
      match hexDigit? c with
      | none => throw .escapeHexInvalidDigit
      | some d => do
        passWithBlanks
        bracedHex fuel (some (value.getD 0 * 16 + d))

/-- Reads a character by its number, from the letter of the escape on. -/
def numbered (letter : Char) : Reader Atom := do
  passWithBlanks
  if (← next .escapeUnfinished) = '\x7b' then do
    passWithBlanks
    let n ← bracedHex ((← get).rest.length + 1) none
    return .char (← charOf n) false
  else do
    let count := if letter == 'x' then 2 else if letter == 'u' then 4 else 8
    let n ← hexDigits count 0
    return .char (← charOf n) (letter == 'x')

/-- Reads the characters of a name up to a closing brace; `fuel` may be the length of the text. -/
def bracedName : (fuel : Nat) → Reader (List Char)
  | 0 => throw .escapeUnfinished
  | fuel + 1 => do
    let c ← next .escapeUnfinished
    passWithBlanks
    if c = '\x7d' then return []
    else return c :: (← bracedName fuel)

/-- The texts in front of and behind the first place where a mark stands, if it stands anywhere. -/
def splitAt? (mark : List Char) : List Char → Option (List Char × List Char)
  | [] => none
  | c :: cs =>
    if mark.isPrefixOf (c :: cs) then some ([], (c :: cs).drop mark.length)
    else (splitAt? mark cs).map fun (before, behind) => (c :: before, behind)

/-- The set of a property by what stands between its braces, and whether it is to be negated. -/
def namedProperty (text : List Char) : Option CharSet × Bool :=
  match splitAt? ['!', '='] text with
  | some (name, value) => (Unicode.valued? name value, true)
  | none =>
    match (splitAt? [':'] text).orElse fun _ => splitAt? ['='] text with
    | some (name, value) => (Unicode.valued? name value, false)
    | none => (Unicode.named? text, false)

/-- Reads a property, from its letter on. Cases are added before the set is negated. -/
def property (negated : Bool) : Reader Atom := do
  passWithBlanks
  let c ← next .escapeUnfinished
  let (set, unequal) ←
    if c = '\x7b' then do
      passWithBlanks
      pure (namedProperty (← bracedName ((← get).rest.length + 1)))
    else if c = '\\' then
      throw .propertyInvalid
    else do
      passWithBlanks
      pure (Unicode.named? [c], false)
  match set with
  | none => throw .propertyUnknown
  | some set =>
    if !(← get).flags.unicode then
      throw .notAscii
    else do
      let set ← withCases set
      return .set (if negated != unequal then set.complement else set)

/-- Whether a character may stand in the name of a word boundary. -/
def isBoundaryChar (c : Char) : Bool := c.isAlpha || c == '-'

/-- Reads the name of a word boundary up to its closing brace; `fuel` may be the length of the
text. -/
def boundaryName : (fuel : Nat) → Reader (List Char)
  | 0 => throw .wordBoundaryUnclosed
  | fuel + 1 => do
    let c ← next .wordBoundaryUnclosed
    passWithBlanks
    if c = '\x7d' then return []
    else if isBoundaryChar c then return c :: (← boundaryName fuel)
    else throw .wordBoundaryUnclosed

/-- Reads a word boundary whose letter was passed: a plain one, or one with a name in braces. Braces
that hold no name belong to a repetition. -/
def wordBoundary : Reader Atom := do
  let isWord ← wordSet
  let before ← get
  if before.rest.head? = some '\x7b' then do
    passWithBlanks
    if isBoundaryChar (← next .wordBoundaryUnclosed) then do
      let name ← boundaryName ((← get).rest.length + 1)
      match String.ofList name with
      | "start" => return .look (.wordStart isWord)
      | "end" => return .look (.wordEnd isWord)
      | "start-half" => return .look (.wordStartHalf isWord)
      | "end-half" => return .look (.wordEndHalf isWord)
      | _ => throw .wordBoundaryUnrecognized
    else do
      set before
      return .look (.boundary isWord)
  else
    return .look (.boundary isWord)

/-- Whether an escaped character stands for itself: ASCII characters that are neither letters,
digits nor angle brackets. -/
def isEscapable (c : Char) : Bool :=
  c.toNat < 128 && !c.isAlphanum && c != '<' && c != '>'

/-- The control characters that have letters. -/
def controlEscape? (c : Char) : Option Char :=
  if c == 'a' then some '\x07'
  else if c == 'f' then some '\x0c'
  else if c == 't' then some '\t'
  else if c == 'n' then some '\n'
  else if c == 'r' then some '\r'
  else if c == 'v' then some '\x0b'
  else none

/-- Reads an escape whose backslash was passed. -/
def escape : Reader Atom := do
  let c ← next .escapeUnfinished
  if c.isDigit then throw .backReference
  else if c == 'x' || c == 'u' || c == 'U' then numbered c
  else if c == 'p' then property false
  else if c == 'P' then property true
  else do
    pass 1
    if c == 'd' || c == 's' || c == 'w' then return .set (← shortClass c)
    else if c == 'D' || c == 'S' || c == 'W' then
      return .set (← negate (← shortClass c.toLower))
    else if isEscapable c then return .char c false
    else if c == 'A' then return .look .textStart
    else if c == 'z' then return .look .textEnd
    else if c == 'b' then wordBoundary
    else if c == 'B' then return .look (.notBoundary (← wordSet))
    else if c == '<' then return .look (.wordStart (← wordSet))
    else if c == '>' then return .look (.wordEnd (← wordSet))
    else
      match controlEscape? c with
      | some control => return .char control false
      | none => throw .escapeUnrecognized

end Parley.Pattern.Reader
