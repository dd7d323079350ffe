import Parley.Pattern.Escape

/-!
# Classes of characters

What stands between square brackets: characters, ranges, escapes, classes inside of classes, and
operators between them, which all bind alike from left to right. A class comes with its height, the
number of levels that are nested in it: a class is one level, and so are two or more items side by
side and each operator.
-/

namespace Parley.Pattern

/-- The classes of ASCII by name. -/
def asciiClass? (name : String) : Option CharSet :=
  let upper := CharSet.range 'A' 'Z'
  let lower := CharSet.range 'a' 'z'
  let digit := CharSet.range '0' '9'
  match name with
  | "alnum" => some (.unionAll [upper, lower, digit])
  | "alpha" => some (upper.union lower)
  | "ascii" => some (.range '\x00' '\x7f')
  | "blank" => some (.ofList ['\t', ' '])
  | "cntrl" => some ((CharSet.range '\x00' '\x1f').union (.singleton '\x7f'))
  | "digit" => some digit
  | "graph" => some (.range '!' '~')
  | "lower" => some lower
  | "print" => some (.range ' ' '~')
  | "punct" =>
    some (.unionAll [.range '!' '/', .range ':' '@', .range '[' '\x60', .range '\x7b' '~'])
  | "space" => some Reader.asciiBlanks
  | "upper" => some upper
  | "word" => some Reader.asciiWord
  | "xdigit" => some (.unionAll [digit, .range 'A' 'F', .range 'a' 'f'])
  | _ => none

namespace Reader

/-- How two sets of a class are joined. -/
inductive SetOperator where
  | intersection
  | difference
  | symmetricDifference

/-- The set that an operator makes of two sets. -/
def SetOperator.join : SetOperator → CharSet → CharSet → CharSet
  | .intersection => CharSet.inter
  | .difference => CharSet.diff
  | .symmetricDifference => CharSet.symmDiff

/-- A set with the number of levels that are nested in it. -/
structure Nested where
  set : CharSet
  height : Nat

/-- A class that is being read: the items since the last operator, the last one first, and that
operator with what stands before it. -/
structure ClassReading where
  items : List Nested
  left : Option (SetOperator × Nested)

namespace ClassReading

/-- A class that starts with some characters. -/
def ofChars (cs : List Char) : ClassReading := ⟨cs.map fun c => ⟨.singleton c, 0⟩, none⟩

/-- Adds an item to a class. -/
def add (r : ClassReading) (set : CharSet) (height : Nat) : ClassReading :=
  { r with items := ⟨set, height⟩ :: r.items }

/-- The items since the last operator as one set. -/
def joined (r : ClassReading) : Nested :=
  match r.items with
  | [] => ⟨.empty, 0⟩
  | [item] => item
  | items => ⟨.unionAll (items.map (·.set)), items.foldl (fun h i => max h i.height) 0 + 1⟩

/-- The set of a class so far. The cases that the flags add are added on both sides of an operator
before it joins them. -/
def close (r : ClassReading) : Reader Nested := do
  let right := r.joined
  match r.left with
  | none => return right
  | some (op, left) =>
    return ⟨op.join (← withCases left.set) (← withCases right.set),
      max left.height right.height + 1⟩

end ClassReading

/-- Reads one element of a class. -/
def classAtom : Reader Atom := do
  let c ← next .classUnclosed
  pass 1
  if c = '\\' then escape else return .char c false

/-- A character of a class; without Unicode it must be one of ASCII. -/
def classChar (c : Char) (isByte : Bool) : Reader Char := do
  if (← get).flags.unicode || c.toNat < 128 then return c
  else if isByte then throw .notText
  else throw .notAscii

/-- The set of an element of a class. -/
def atomSet : Atom → Reader CharSet
  | .char c isByte => return .singleton (← classChar c isByte)
  | .set set => return set
  | .look _ => throw .classEscapeInvalid

/-- The character that decides whether a hyphen makes a range. Where blanks stand for nothing, they
are passed over, and so is the mark of a comment, but not the comment. -/
def decider (verbose : Bool) (cs : List Char) : Option Char :=
  if !verbose then cs.head?
  else
    match cs.dropWhile Text.isBlank with
    | '#' :: rest => (rest.dropWhile Text.isBlank).head?
    | rest => rest.head?

/-- Whether a hyphen stands next and makes a range: one in front of a closing bracket or of another
hyphen does not. -/
def startsRange : Reader Bool := do
  let s ← get
  match s.rest with
  | '-' :: rest =>
    let behind := decider s.flags.verbose rest
    return behind != some ']' && behind != some '-'
  | _ => return false

/-- Reads an element or a range of a class. -/
def classItem : Reader CharSet := do
  let first ← classAtom
  passBlanks
  let _ ← next .classUnclosed
  if ← startsRange then do
    passWithBlanks
    let last ← classAtom
    match first, last with
    | .char a aIsByte, .char b bIsByte =>
      if a ≤ b then return .range (← classChar a aIsByte) (← classChar b bIsByte)
      else throw .classRangeInvalid
    | _, _ => throw .classRangeLiteral
  else atomSet first

/-- The set of a class of ASCII such as `[:alpha:]` and the text behind it, if the text has one. -/
def asciiItem? (cs : List Char) : Option (CharSet × Bool × List Char) :=
  match cs with
  | '[' :: ':' :: rest =>
    let negated := rest.head? == some '^'
    let name := if negated then rest.drop 1 else rest
    match name.dropWhile (· != ':') with
    | ':' :: ']' :: behind =>
      (asciiClass? (String.ofList (name.takeWhile (· != ':')))).map (·, negated, behind)
    | _ => none
  | _ => none

/-- Passes over hyphens at the start of a class, which stand for themselves, and tells how many
there are; `fuel` may be the length of the text. -/
def leadingHyphens : (fuel : Nat) → Reader Nat
  | 0 => return 0
  | fuel + 1 => do
    if (← next .classUnclosed) = '-' then do
      passWithBlanks
      return (← leadingHyphens fuel) + 1
    else
      return 0

/-- Reads the start of a class from its bracket on: whether it is negated, and the characters that
stand for themselves at this place. -/
def classStart : Reader (Bool × ClassReading) := do
  passWithBlanks
  let negated := (← next .classUnclosed) = '^'
  if negated then
    passWithBlanks
  let hyphens ← leadingHyphens ((← get).rest.length + 1)
  if 0 < hyphens then return (negated, .ofChars (List.replicate hyphens '-'))
  else if (← next .classUnclosed) = ']' then do
    passWithBlanks
    let _ ← next .classUnclosed
    return (negated, .ofChars [']'])
  else return (negated, .ofChars [])

/-- Reads the operator that stands next, if there is one. -/
def setOperator? : Reader (Option SetOperator) := do
  if ← startsWith ['&', '&'] then do
    pass 2
    return some .intersection
  else if ← startsWith ['-', '-'] then do
    pass 2
    return some .difference
  else if ← startsWith ['~', '~'] then do
    pass 2
    return some .symmetricDifference
  else
    return none

/-- A set with the cases that the flags add, negated or not. -/
def finished (negated : Bool) (set : CharSet) : Reader CharSet := do
  let set ← withCases set
  if negated then negate set else return set

/-- Reads the items of a class up to its closing bracket. Every step passes at least one character,
so that `fuel` may be the length of the text. -/
def classBody : (fuel : Nat) → ClassReading → Reader Nested
  | 0, _ => throw .classUnclosed
  | fuel + 1, r => do
    passBlanks
    let c ← next .classUnclosed
    if c = '[' then do
      match asciiItem? (← get).rest with
      | some (set, negated, behind) => do
        modify fun s => { s with rest := behind }
        classBody fuel (r.add (← finished negated set) 0)
      | none => do
        let (negated, start) ← classStart
        let inner ← classBody fuel start
        classBody fuel (r.add (← finished negated inner.set) (inner.height + 1))
    else if c = ']' then do
      pass 1
      r.close
    else
      match ← setOperator? with
      | some op => do
        let left ← r.close
        classBody fuel ⟨[], some (op, left)⟩
      | none => do
        let item ← classItem
        classBody fuel (r.add item 0)

/-- Reads a class from its bracket on. -/
def charClass : Reader Nested := do
  let (negated, start) ← classStart
  let inner ← classBody ((← get).rest.length + 1) start
  return ⟨← finished negated inner.set, inner.height + 1⟩

end Reader

end Parley.Pattern
