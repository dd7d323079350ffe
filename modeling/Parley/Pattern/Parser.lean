import Parley.Pattern.CharClass
import Parley.Pattern.Size

/-!
# Reading patterns

Sequences of parts, repetitions, groups and alternatives. Parts are gathered in reverse order. Each
part comes with its height, the number of levels that are nested in it, which is limited.
-/

namespace Parley.Pattern

/-- A part of a sequence: its meaning, and how deep it is nested. -/
structure Part where
  expr : Expr
  height : Nat
  /-- Whether the part only sets flags, and so cannot be repeated. -/
  isFlags : Bool := false

namespace Reader

/-! ## Repetitions -/

/-- Reads the decimal digits of a count; blanks around them stand for nothing. -/
def count? : Reader (Option Nat) := do
  modify fun s => { s with rest := s.rest.dropWhile Text.isBlank }
  let ds ← digits (← get).rest.length
  modify fun s => { s with rest := s.rest.dropWhile Text.isBlank }
  passBlanks
  if ds.isEmpty then return none
  else
    let n := ds.foldl (fun n d => n * 10 + (d.toNat - '0'.toNat)) 0
    if n < 4294967296 then return some n else throw .decimalInvalid
where
  /-- Reads digits, of which blanks may stand between. -/
  digits : (fuel : Nat) → Reader (List Char)
    | 0 => return []
    | fuel + 1 => do
      match ← peek with
      | some c =>
        if c.isDigit then do
          passWithBlanks
          return c :: (← digits fuel)
        else return []
      | none => return []

/-- Reads the counts of a repetition from its opening brace on. -/
def counts : Reader (Nat × Option Nat) := do
  passWithBlanks
  let _ ← next .repetitionCountUnclosed
  let min ← count?
  let mark ← next .repetitionCountUnclosed
  let range ←
    if mark = ',' then do
      passWithBlanks
      if (← next .repetitionCountUnclosed) = '\x7d' then
        match min with
        | some n => pure (n, none)
        | none => throw .decimalInvalid
      else do
        let max ← count?
        match min, max with
        | some n, some m => pure (n, some m)
        | _, _ => throw .decimalInvalid
    else
      match min with
      | some n => pure (n, some n)
      | none => throw .decimalInvalid
  if (← next .repetitionCountUnclosed) ≠ '\x7d' then
    throw .repetitionCountUnclosed
  else do
    passWithBlanks
    if range.2.any (· < range.1) then throw .repetitionCountInvalid
    else return range

/-- Passes over the mark of a lazy repetition, which finds the same texts. -/
def passLazyMark : Reader Unit := do
  if (← peek) = some '?' then
    pass 1

/-- Whether the last part can be repeated. Parts come in reverse order, here and below. -/
def canRepeat (parts : List Part) : Bool := parts.head?.any (!·.isFlags)

/-- Repeats the last part of a sequence. -/
def repeatLast (min : Nat) (max : Option Nat) : List Part → Reader (List Part)
  | [] => throw .repetitionMissing
  | part :: before =>
    if part.isFlags then throw .repetitionMissing
    else return ⟨part.expr.times min max, part.height + 1, false⟩ :: before

/-! ## Groups -/

/-- The flags of a group by their letters. -/
def flagLetters : List Char := ['i', 'm', 's', 'U', 'u', 'R', 'x']

/-- Sets one flag. -/
def setFlag (f : Flags) (letter : Char) (value : Bool) : Flags :=
  if letter == 'i' then { f with ignoreCase := value }
  else if letter == 'm' then { f with multiLine := value }
  else if letter == 's' then { f with dotAll := value }
  else if letter == 'U' then { f with swapGreed := value }
  else if letter == 'u' then { f with unicode := value }
  else if letter == 'R' then { f with carriageReturn := value }
  else { f with verbose := value }

/-- Reads the letters of flags up to a colon or a closing parenthesis, which stays in the text.
`seen` holds the letters and the minus sign that were read; `fuel` may be the length of the
text. -/
def flagRun : (fuel : Nat) → (seen : List Char) → Flags → Reader (List Char × Flags)
  | 0, _, _ => throw .flagUnfinished
  | fuel + 1, seen, flags => do
    let c ← next .flagUnfinished
    if c = ':' ∨ c = ')' then
      if seen.getLast? = some '-' then throw .flagDangling else return (seen, flags)
    else if c ≠ '-' ∧ c ∉ flagLetters then throw .flagUnrecognized
    else if c ∈ seen then throw .flagDuplicate
    else do
      pass 1
      let flags := if c = '-' then flags else setFlag flags c ('-' ∉ seen)
      flagRun fuel (seen ++ [c]) flags

/-- Whether a character may stand in the name of a capture group. -/
def isNameChar (first : Bool) (c : Char) : Bool :=
  c == '_' || (Unicode.alphabetic .seventeenth).contains c
    || (!first && ((Unicode.Category.set .seventeenth Unicode.Category.numbers).contains c
      || c == '.' || c == '[' || c == ']'))

/-- Reads the name of a capture group up to its closing angle bracket. -/
def groupName : Reader Unit := do
  let rest := (← get).rest
  if rest.isEmpty then throw .captureNameUnfinished
  else do
    let name := rest.takeWhile (· != '>')
    if name.head?.any (!isNameChar true ·) || (name.drop 1).any (!isNameChar false ·) then
      throw .captureNameInvalid
    else if name.length = rest.length then throw .captureNameUnfinished
    else if name.isEmpty then throw .captureNameEmpty
    else if name ∈ (← get).names then throw .captureNameDuplicate
    else modify fun s => { s with rest := rest.drop (name.length + 1), names := name :: s.names }

/-- What an opening parenthesis starts. -/
inductive GroupStart where
  /-- A group, with the flags that hold inside. -/
  | group (captures : Bool) (flags : Flags)
  /-- Flags for the rest of the group around. -/
  | flags (flags : Flags)

/-- Reads the start of a group from its parenthesis on. -/
def groupStart : Reader GroupStart := do
  passWithBlanks
  let flags := (← get).flags
  if (← startsWith ['?', '=']) || (← startsWith ['?', '!']) || (← startsWith ['?', '<', '='])
      || (← startsWith ['?', '<', '!']) then
    throw .lookAround
  else if ← startsWith ['?', 'P', '<'] then do
    pass 3
    groupName
    return .group true flags
  else if ← startsWith ['?', '<'] then do
    pass 2
    groupName
    return .group true flags
  else if ← startsWith ['?'] then do
    pass 1
    let _ ← next .groupUnclosed
    let (seen, inner) ← flagRun ((← get).rest.length + 1) [] flags
    let mark ← next .flagUnfinished
    pass 1
    if mark = ':' then return .group false inner
    else if seen.isEmpty then throw .repetitionMissing
    else return .flags inner
  else
    return .group true flags

/-! ## Sequences and alternatives -/

/-- The meaning of a character outside of classes. -/
def literal (c : Char) (isByte : Bool) : Reader Expr := do
  let flags := (← get).flags
  if isByte && !flags.unicode && 128 ≤ c.toNat then throw .notText
  else return .one (← withCases (.singleton c))

/-- Reads one element of a sequence. -/
def primitive : Reader Expr := do
  let flags := (← get).flags
  let c ← next .groupUnclosed
  pass 1
  if c = '\\' then do
    match ← escape with
    | .char c isByte => literal c isByte
    | .look condition => return .look condition
    | .set set => return .one set
  else if c = '.' then
    if !flags.unicode then throw .notText
    else if flags.dotAll then return .one .all
    else if flags.carriageReturn then return .one (CharSet.ofList ['\n', '\r']).complement
    else return .one (CharSet.singleton '\n').complement
  else if c = '^' then
    if !flags.multiLine then return .look .textStart
    else if flags.carriageReturn then return .look .lineStartCR
    else return .look .lineStart
  else if c = '$' then
    if !flags.multiLine then return .look .textEnd
    else if flags.carriageReturn then return .look .lineEndCR
    else return .look .lineEnd
  else
    literal c false

/-- The sequence of some parts in reverse order. -/
def sequence : List Part → Part
  | [] => ⟨.empty, 0, false⟩
  | [part] => ⟨part.expr, part.height, false⟩
  | parts =>
    let height := parts.foldl (fun h p => max h p.height) 0 + 1
    ⟨.seqAll (parts.reverse.map (·.expr)), height, false⟩

/-- The choice between some branches in reverse order. -/
def alternatives : List Part → Part
  | [] => ⟨.empty, 0, false⟩
  | [branch] => branch
  | branches =>
    let height := branches.foldl (fun h p => max h p.height) 0 + 1
    ⟨.altAll (branches.reverse.map (·.expr)), height, false⟩

/-- Reads alternatives up to the end of the text or to a closing parenthesis, which stays in the
text; `done` and `parts` hold the branches and the parts that were read before, the last ones first.
Every step passes at least one character, so that `fuel` may be the length of the text. -/
def branches : (fuel : Nat) → (done : List Part) → (parts : List Part) → Reader Part
  | 0, _, _ => throw .groupUnclosed
  | fuel + 1, done, parts => do
    passBlanks
    match ← peek with
    | none => return alternatives (sequence parts :: done)
    | some c =>
      if c = ')' then return alternatives (sequence parts :: done)
      else if c = '|' then do
        pass 1
        branches fuel (sequence parts :: done) []
      else if c = '(' then do
        let outer := (← get).flags
        match ← groupStart with
        | .flags flags => do
          modify fun s => { s with flags }
          branches fuel done (⟨.empty, 0, true⟩ :: parts)
        | .group captures flags => do
          modify fun s => { s with flags }
          let inner ← branches fuel [] []
          if (← peek) = some ')' then do
            pass 1
            modify fun s => { s with flags := outer }
            let e := if captures then .capture inner.expr else inner.expr
            branches fuel done (⟨e, inner.height + 1, false⟩ :: parts)
          else
            throw .groupUnclosed
      else if c = '[' then do
        let inner ← charClass
        branches fuel done (⟨.one inner.set, inner.height, false⟩ :: parts)
      else if c = '?' ∨ c = '*' ∨ c = '+' then do
        pass 1
        passLazyMark
        let min := if c = '+' then 1 else 0
        let max := if c = '?' then some 1 else none
        branches fuel done (← repeatLast min max parts)
      else if c = '\x7b' then do
        if !canRepeat parts then throw .repetitionMissing
        else do
          let (min, max) ← counts
          passLazyMark
          branches fuel done (← repeatLast min max parts)
      else do
        let e ← primitive
        branches fuel done (⟨e, 0, false⟩ :: parts)

/-- How deep the parts of a pattern may be nested. -/
def maxHeight : Nat := 250

/-- Reads a whole pattern. -/
def pattern : Reader Expr := do
  let part ← branches ((← get).rest.length + 1) [] []
  if (← peek).isSome then throw .groupUnopened
  else if maxHeight < part.height then throw .nestTooDeep
  else return part.expr

end Reader

/-- The expression of a pattern, unless compiling it would take more memory than is allowed. -/
def parse (text : String) : Except Fault Expr :=
  match Reader.pattern ⟨text.toList, {}, []⟩ with
  | .ok (e, _) => if e.fits then .ok e else .error .tooLarge
  | .error fault => .error fault

end Parley.Pattern
