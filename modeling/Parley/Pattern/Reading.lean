import Parley.Pattern.Fault
import Parley.Text.Blank
import Parley.Unicode.Folding
import Parley.Unicode.Property

/-!
# Readers of patterns

The flags that are in force are part of the reader's state: they hold from where they are set to
the end of the group around them. A pattern is read from left to right, so that each part is given
its meaning under the flags of its place.
-/

namespace Parley.Pattern

/-- The flags of a pattern. -/
structure Flags where
  ignoreCase : Bool := false
  /-- `^` and `$` hold at every line. -/
  multiLine : Bool := false
  /-- `.` is any character at all. -/
  dotAll : Bool := false
  /-- Whether the greedy and the lazy repetition change places, which shows only in what is found,
  not in whether anything is. -/
  swapGreed : Bool := false
  /-- Classes and cases are those of Unicode, not of ASCII. -/
  unicode : Bool := true
  /-- A carriage return ends a line too. -/
  carriageReturn : Bool := false
  /-- Blanks and comments stand for nothing. -/
  verbose : Bool := false

/-- The state of the reader: the text that is left, the flags in force, and the names that capture
groups have. -/
structure Reading where
  rest : List Char
  flags : Flags
  names : List (List Char)

/-- A step of the reader. -/
abbrev Reader := StateT Reading (Except Fault)

namespace Reader

/-! ## Characters -/

/-- The next character. -/
def peek : Reader (Option Char) := return (← get).rest.head?

/-- Passes over a number of characters. -/
def pass (n : Nat) : Reader Unit := modify fun s => { s with rest := s.rest.drop n }

/-- Passes over blanks, and over comments from `#` to the end of the line. -/
def dropBlanks : (inComment : Bool) → List Char → List Char
  | _, [] => []
  | true, c :: cs => dropBlanks (c != '\n') cs
  | false, c :: cs =>
    if Text.isBlank c then dropBlanks false cs
    else if c == '#' then dropBlanks true cs
    else c :: cs

/-- Passes over blanks and comments where they stand for nothing. -/
def passBlanks : Reader Unit := modify fun s =>
  if s.flags.verbose then { s with rest := dropBlanks false s.rest } else s

/-- Passes over one character and the blanks behind it. -/
def passWithBlanks : Reader Unit := do
  pass 1
  passBlanks

/-- The next character, which must be there. -/
def next (missing : Fault) : Reader Char := do
  match ← peek with
  | some c => return c
  | none => throw missing

/-- Whether the text goes on with the given characters. -/
def startsWith (cs : List Char) : Reader Bool := return cs.isPrefixOf (← get).rest

/-! ## Sets under the flags in force -/

/-- The blanks of ASCII. -/
def asciiBlanks : CharSet := .ofList ['\t', '\n', '\x0b', '\x0c', '\r', ' ']

/-- The characters of words in ASCII. -/
def asciiWord : CharSet :=
  .unionAll [.range '0' '9', .range 'A' 'Z', .singleton '_', .range 'a' 'z']

/-- A set with the cases that the flags add. -/
def withCases (set : CharSet) : Reader CharSet := do
  let flags := (← get).flags
  if !flags.ignoreCase then return set
  else if flags.unicode then return Unicode.fold set
  else return Unicode.foldAscii set

/-- The complement of a set, which must not hold bytes that are no characters. -/
def negate (set : CharSet) : Reader CharSet := do
  if (← get).flags.unicode then return set.complement else throw .notText

/-- The word characters of the flags in force. -/
def wordSet : Reader CharSet := do
  return if (← get).flags.unicode then Unicode.wordCharacter else asciiWord

/-- The decimal digits of the flags in force. -/
def digitSet : Reader CharSet := do
  return if (← get).flags.unicode then Unicode.Category.set .sixteenth [.Nd] else .range '0' '9'

/-- The blanks of the flags in force. -/
def blankSet : Reader CharSet := do
  return if (← get).flags.unicode then Unicode.whiteSpace else asciiBlanks

/-- The set of `\d`, `\s` or `\w`. -/
def shortClass (c : Char) : Reader CharSet :=
  if c == 'd' then digitSet else if c == 's' then blankSet else wordSet

end Reader

end Parley.Pattern
