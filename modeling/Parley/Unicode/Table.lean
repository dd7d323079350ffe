import Parley.CharSet

/-!
# Tables of characters

Properties of characters are kept as text, in one of two forms. A *list of ranges* names code points
by hexadecimal digits, single or as `first-last`, in ascending order. A *list of runs* cuts all code
points into stretches of equal label, from U+0000 on: a label and the length of its stretch.
-/

namespace Parley.Unicode

/-- The words of a text. -/
def words (text : String) : List (List Char) :=
  (text.toList.splitOnP fun c => c == ' ' || c == '\n').filter (!·.isEmpty)

/-! ## Lists of ranges -/

/-- The value of a hexadecimal digit; only digits and the letters up to `f` occur. -/
def hexValue (c : Char) : Nat :=
  if c.isDigit then c.toNat - '0'.toNat else c.toNat - 'a'.toNat + 10

/-- The number of some hexadecimal digits. -/
def hexNumber (cs : List Char) : Nat := cs.foldl (fun n c => n * 16 + hexValue c) 0

/-- The first and the last code point of a range. -/
def rangeOf (word : List Char) : Nat × Nat :=
  match word.dropWhile (· != '-') with
  | [] => (hexNumber word, hexNumber word)
  | _ :: last => (hexNumber (word.takeWhile (· != '-')), hexNumber last)

/-- The set of a list of ranges. -/
def table (text : String) : CharSet :=
  ⟨(words text).flatMap fun word => [(rangeOf word).1, (rangeOf word).2 + 1]⟩

/-! ## Lists of runs -/

/-- A stretch of code points with the same label. -/
structure Run where
  label : String
  length : Nat

/-- Reads a run: letters, then a decimal number. -/
def Run.ofWord (word : List Char) : Run where
  label := String.ofList (word.takeWhile Char.isAlpha)
  length := (word.dropWhile Char.isAlpha).foldl (fun n c => n * 10 + (c.toNat - '0'.toNat)) 0

/-- The runs of a text. -/
def runs (text : String) : List Run := (words text).map Run.ofWord

/-- The code points at which the labels start or cease to be among the wanted ones; `inside` tells
whether the label in front of `start` is among them. -/
def runSwitches (wanted : String → Bool) : (start : Nat) → (inside : Bool) → List Run → List Nat
  | start, inside, [] => if inside then [start] else []
  | start, inside, r :: rest =>
    CharSet.emit inside (wanted r.label) start
      (runSwitches wanted (start + r.length) (wanted r.label) rest)

/-- The characters with the labels that are wanted; no surrogate may have such a label. -/
def labelled (rs : List Run) (wanted : String → Bool) : CharSet :=
  ⟨runSwitches wanted 0 false rs⟩

end Parley.Unicode
