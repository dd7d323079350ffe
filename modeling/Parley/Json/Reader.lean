import Parley.Json.Skip

/-!
# Reading JSON values

Readers for lists and objects over readers for what they hold, and the reader for any value. The
number that the readers take is how many more brackets may be open at once.
-/

namespace Parley.Json.Reader

/-- How many brackets may be open at once. -/
def maxDepth : Nat := 127

/-- What stands next, when it is not what `expected` names; faults inside it come first. -/
def wrongType {α : Type} (expected : String) : Reader α := do
  match ← peek with
  | none => throw .expectedValue
  | some c =>
    if c = 'n' then do
      advance
      word ['u', 'l', 'l']
      throw (.invalidType .null expected)
    else if c = 't' then do
      advance
      word ['r', 'u', 'e']
      throw (.invalidType (.bool true) expected)
    else if c = 'f' then do
      advance
      word ['a', 'l', 's', 'e']
      throw (.invalidType (.bool false) expected)
    else if c = '-' ∨ (Decimal.digitValue? c).isSome then do
      let n ← number
      throw (.invalidType (.number n) expected)
    else if c = '\"' then do
      advance
      let s ← stringRest
      throw (.invalidType (.string s) expected)
    else if c = '[' then
      throw (.invalidType .sequence expected)
    else if c = '\x7b' then
      throw (.invalidType .map expected)
    else
      throw .expectedValue

/-- The next character, which a value must start with. -/
def valueStart : Reader Char := do
  match ← peek with
  | none => throw .endInValue
  | some c => return c

/-- Reads a string. -/
def string (expected : String) : Reader String := do
  if (← valueStart) = '\"' then do
    advance
    stringRest
  else
    wrongType expected

/-- Reads an integer of 64 bits with a sign. -/
def signed : Reader Int := do
  let c ← valueStart
  if c = '-' ∨ (Decimal.digitValue? c).isSome then do
    match ← number with
    | .int i => if Decimal.isSigned i then return i else throw (.invalidInteger i "i64")
    | .float x => throw (.invalidType (.number (.float x)) "i64")
  else
    wrongType "i64"

/-- Reads `null`. -/
def unit : Reader Unit := do
  if (← valueStart) = 'n' then do
    advance
    word ['u', 'l', 'l']
  else
    wrongType "unit"

/-- Reads `null` as nothing, and anything else with the given reader. -/
def optional {α : Type} (item : Reader α) : Reader (Option α) := do
  if (← peek) = some 'n' then do
    advance
    word ['u', 'l', 'l']
    return none
  else
    return some (← item)

/-! ## Lists -/

/-- Whether a list has another item; `first` tells whether it would be the first one. -/
def hasItem (first : Bool) : Reader Bool := do
  match ← peek with
  | none => throw .endInList
  | some c =>
    if c = ']' then return false
    else if first then return true
    else if c = ',' then do
      advance
      match ← peek with
      | none => throw .endInValue
      | some ']' => throw .trailingComma
      | some _ => return true
    else throw .expectedListCommaOrEnd

/-- The items of a list up to its closing bracket; `fuel` may be the length of the text. -/
def items {α : Type} (item : Reader α) : (fuel : Nat) → (first : Bool) → Reader (List α)
  | 0, _ => throw .endInList
  | fuel + 1, first => do
    if ← hasItem first then do
      let x ← item
      let xs ← items item fuel false
      return x :: xs
    else do
      advance
      return []

/-- The items of a list whose opening bracket was passed. -/
def listRest {α : Type} (item : Reader α) : Reader (List α) := fun cs =>
  items item (cs.length + 1) true cs

/-- Reads a list. -/
def list {α : Type} (depth : Nat) (item : (depth : Nat) → Reader α) : Reader (List α) := do
  if (← valueStart) = '[' then
    match depth with
    | 0 => throw .tooDeep
    | depth + 1 => do
      advance
      listRest (item depth)
  else
    wrongType "a sequence"

/-- The end of a list of which all wanted items were read. -/
def listEnd : Reader Unit := do
  match ← peek with
  | none => throw .endInList
  | some ']' => advance
  | some ',' => do
    advance
    if (← peek) = some ']' then throw .trailingComma else throw .trailingCharacters
  | some _ => throw .trailingCharacters

/-! ## Objects -/

/-- Whether an object has another member; `first` tells whether it would be the first one. -/
def hasMember (first : Bool) : Reader Bool := do
  match ← peek with
  | none => throw .endInObject
  | some c =>
    if c = '\x7d' then return false
    else if first then
      if c = '\"' then return true else throw .keyNotString
    else if c = ',' then do
      advance
      match ← peek with
      | none => throw .endInValue
      | some '\"' => return true
      | some '\x7d' => throw .trailingComma
      | some _ => throw .keyNotString
    else throw .expectedObjectCommaOrEnd

/-- Reads the colon between a name and its value. -/
def colon : Reader Unit := do
  match ← peek with
  | none => throw .endInObject
  | some ':' => advance
  | some _ => throw .expectedColon

/-- Runs `member` on the name of each member up to the closing bracket, from an accumulated result
to the next one; `fuel` may be the length of the text. -/
def members {σ : Type} (member : String → σ → Reader σ) :
    (fuel : Nat) → (first : Bool) → σ → Reader σ
  | 0, _, _ => throw .endInObject
  | fuel + 1, first, soFar => do
    if ← hasMember first then do
      advance
      let name ← stringRest
      let next ← member name soFar
      members member fuel false next
    else do
      advance
      return soFar

/-- The members of an object whose opening bracket was passed. -/
def objectRest {σ : Type} (member : String → σ → Reader σ) (start : σ) : Reader σ := fun cs =>
  members member (cs.length + 1) true start cs

/-- Reads a member's value into a dictionary. -/
def entry {α : Type} (item : Reader α) (name : String) (d : Dictionary α) :
    Reader (Dictionary α) := do
  colon
  return d.insert name (← item)

/-- Reads an object as a dictionary; of several members of one name the last counts. -/
def dictionary {α : Type} (depth : Nat) (item : (depth : Nat) → Reader α) :
    Reader (Dictionary α) := do
  if (← valueStart) = '\x7b' then
    match depth with
    | 0 => throw .tooDeep
    | depth + 1 => do
      advance
      objectRest (entry (item depth)) .empty
  else
    wrongType "a map"

/-! ## Values -/

/-- Reads any value. -/
def value (depth : Nat) : Reader Value := do
  let c ← valueStart
  if c = 'n' then do
    advance
    word ['u', 'l', 'l']
    return .null
  else if c = 't' then do
    advance
    word ['r', 'u', 'e']
    return .bool true
  else if c = 'f' then do
    advance
    word ['a', 'l', 's', 'e']
    return .bool false
  else if c = '-' ∨ (Decimal.digitValue? c).isSome then
    return .number (← number)
  else if c = '\"' then do
    advance
    return .string (← stringRest)
  else if c = '[' then
    match depth with
    | 0 => throw .tooDeep
    | depth + 1 => do
      advance
      return .array (← listRest (value depth))
  else if c = '\x7b' then
    match depth with
    | 0 => throw .tooDeep
    | depth + 1 => do
      advance
      return .object (← objectRest (entry (value depth)) .empty).entries
  else
    throw .expectedValue

/-- Reads a whole text: one value, and nothing but blanks around it. -/
def ofText {α : Type} (item : (depth : Nat) → Reader α) (text : String) : Except Fault α :=
  let whole : Reader α := do
    let x ← item maxDepth
    match ← peek with
    | none => return x
    | some _ => throw .trailingCharacters
  (whole text.toList).map (·.1)

end Parley.Json.Reader

namespace Parley.Json.Value

/-- Reads a value from its text. -/
def parse (text : String) : Except Fault Value := Reader.ofText Reader.value text

end Parley.Json.Value
