import Parley.Json.Scan

/-!
# Passing over a value

A value that nobody asked for is checked for its form only: strings may hold lone surrogates,
numbers may have any size, and lists and objects may be nested to any depth.
-/

namespace Parley.Json.Reader

/-- What an unfinished list or object is. -/
inductive Frame where
  | list
  | object

/-- The bracket that ends a frame. -/
def Frame.close : Frame → Char
  | .list => ']'
  | .object => '\x7d'

/-- The fault of a text that ends inside a frame. -/
def Frame.unfinished : Frame → Fault
  | .list => .endInList
  | .object => .endInObject

/-- The fault of two values in a frame without a comma between them. -/
def Frame.missingComma : Frame → Fault
  | .list => .expectedListCommaOrEnd
  | .object => .expectedObjectCommaOrEnd

/-- Passes over the rest of a string whose opening quote was passed; `fuel` may be the length of
the text. -/
def skipStringChars : (fuel : Nat) → Reader Unit
  | 0 => throw .endInString
  | fuel + 1 => fun cs =>
    match cs with
    | [] => .error .endInString
    | '\"' :: rest => .ok ((), rest)
    | ['\\'] => .error .endInString
    | '\\' :: 'u' :: rest => (do
        let _ ← hexCode
        skipStringChars fuel) rest
    | '\\' :: c :: rest =>
      if (letterEscape? c).isSome then skipStringChars fuel rest else .error .invalidEscape
    | c :: rest =>
      if c.toNat < 0x20 then .error .controlCharacter else skipStringChars fuel rest

/-- Passes over a string whose opening quote was passed. -/
def skipString : Reader Unit := fun cs => skipStringChars (cs.length + 1) cs

/-- Passes over at least one digit. -/
def skipDigits : Reader Unit := do
  let ds ← digitRun
  if ds.isEmpty then
    throw .invalidNumber

/-- Passes over an exponent, if there is one. -/
def skipExponent : Reader Unit := do
  if ← atExponent then
    advance
    let sign := (← get).head?
    if sign == some '+' || sign == some '-' then
      advance
    skipDigits

/-- Passes over a number whose minus sign, if it has one, was passed. -/
def skipNumber : Reader Unit := do
  let zero := (← get).head? == some '0'
  let ds ← digitRun
  if ds.isEmpty || (zero && 1 < ds.length) then
    throw .invalidNumber
  if (← get).head? == some '.' then
    advance
    skipDigits
  skipExponent

/-- Passes over the name and the colon of a member, when the frame is an object. -/
def Frame.skipName : Frame → Reader Unit
  | .list => pure ()
  | .object => do
    match ← peek with
    | none => throw .endInObject
    | some c =>
      if c = '\"' then do
        advance
        skipString
        match ← peek with
        | none => throw .endInObject
        | some ':' => advance
        | some _ => throw .expectedColon
      else
        throw .keyNotString

/-- Where skipping stands: before a value, or behind one or behind an opening bracket. -/
inductive Spot where
  | value
  | after (acceptComma : Bool)

/-- Passes over values until no frame is open. At least every other step passes a character, so
that `fuel` may be twice the length of the text. -/
def skipFrom : (fuel : Nat) → Spot → List Frame → Reader Unit
  | 0, _, _ => throw .endInValue
  | fuel + 1, .value, frames => do
    match ← peek with
    | none => throw .endInValue
    | some c =>
      if c = 'n' then do
        advance
        word ['u', 'l', 'l']
        skipFrom fuel (.after true) frames
      else if c = 't' then do
        advance
        word ['r', 'u', 'e']
        skipFrom fuel (.after true) frames
      else if c = 'f' then do
        advance
        word ['a', 'l', 's', 'e']
        skipFrom fuel (.after true) frames
      else if c = '-' then do
        advance
        skipNumber
        skipFrom fuel (.after true) frames
      else if (Decimal.digitValue? c).isSome then do
        skipNumber
        skipFrom fuel (.after true) frames
      else if c = '\"' then do
        advance
        skipString
        skipFrom fuel (.after true) frames
      else if c = '[' then do
        advance
        skipFrom fuel (.after false) (.list :: frames)
      else if c = '\x7b' then do
        advance
        skipFrom fuel (.after false) (.object :: frames)
      else
        throw .expectedValue
  | _ + 1, .after _, [] => pure ()
  | fuel + 1, .after acceptComma, frame :: frames => do
    match ← peek with
    | none => throw frame.unfinished
    | some c =>
      if c = ',' ∧ acceptComma then do
        advance
        frame.skipName
        skipFrom fuel .value (frame :: frames)
      else if c = frame.close then do
        advance
        skipFrom fuel (.after true) frames
      else if acceptComma then
        throw frame.missingComma
      else do
        frame.skipName
        skipFrom fuel .value (frame :: frames)

/-- Passes over one value. -/
def skip : Reader Unit := fun cs => skipFrom (2 * cs.length + 2) .value [] cs

end Parley.Json.Reader
