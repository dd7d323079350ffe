import Parley.Pattern.Expr

/-!
# The size of patterns

A pattern is refused if its automaton would take more than ten megabytes. The automaton works on the
bytes of UTF-8, and is wanted twice: once forward, with the places of captures, and once backward.
Repetitions are spelled out as copies, so that counts multiply the size of what they repeat. A state
takes 32 bytes; states with several ways out take more: 8 bytes for each range of bytes, or 4 bytes
for each state that is entered without reading.
-/

namespace Parley.Pattern

/-! ## Characters as bytes -/

/-- Ranges of bytes that follow one another. -/
abbrev ByteSpan := List (Nat × Nat)

/-- Consecutive numbers as spans of digits to the base 64, of which there are `further` behind the
leading one. -/
def digitSpans : (further : Nat) → (first last : Nat) → List ByteSpan
  | 0, first, last => [[(first, last)]]
  | further + 1, first, last =>
    let unit := Nat.pow 64 (further + 1)
    let under (digit low high : Nat) : List ByteSpan :=
      (digitSpans further low high).map ((digit, digit) :: ·)
    let a := first / unit
    let b := last / unit
    if a = b then under a (first % unit) (last % unit)
    else
      let (below, a') :=
        if first % unit = 0 then ([], a) else (under a (first % unit) (unit - 1), a + 1)
      let (above, b') :=
        if last % unit = unit - 1 then ([], b) else (under b 0 (last % unit), b - 1)
      let between := if a' ≤ b' then [(a', b') :: List.replicate (further + 1) (0, 63)] else []
      below ++ between ++ above

/-- The code points that are encoded with the same number of bytes: the first, the last, the number
of bytes behind the leading one, and what the leading one has added to its digit. -/
def encodings : List (Nat × Nat × Nat × Nat) :=
  [(0, 0x7f, 0, 0), (0x80, 0x7ff, 1, 0xc0), (0x800, 0xffff, 2, 0xe0),
   (0x10000, 0x10ffff, 3, 0xf0)]

/-- The bytes of a range of characters. -/
def byteSpans (range : Nat × Nat) : List ByteSpan :=
  encodings.flatMap fun (first, last, further, mark) =>
    let a := Nat.max first range.1
    let b := Nat.min last range.2
    if b < a then []
    else
      (digitSpans further a b).map fun
        | [] => []
        | lead :: digits =>
          (lead.1 + mark, lead.2 + mark) :: digits.map fun d => (d.1 + 0x80, d.2 + 0x80)

/-- Spans grouped by their first ranges. -/
def branchesOf (spans : List ByteSpan) : List (List ByteSpan) :=
  spans.splitBy (·.head? == ·.head?)

/-- What is left to read at the states of an automaton for some spans of at most `length` ranges,
from its start on. -/
def suffixes : (length : Nat) → List ByteSpan → List (List ByteSpan)
  | 0, _ => []
  | length + 1, spans =>
    let rests := (branchesOf spans).map (·.map (·.drop 1))
    spans :: (rests.filter (!·.all (·.isEmpty))).flatMap (suffixes length)

/-- The number of different beginnings of some spans of at most `length` ranges. -/
def beginnings : (length : Nat) → List ByteSpan → Nat
  | 0, _ => 0
  | length + 1, spans =>
    let rests := (branchesOf spans).map (·.map (·.drop 1))
    rests.foldl (fun n rest => n + 1 + beginnings length (rest.filter (!·.isEmpty))) 0

/-! ## Memory -/

/-- The memory of a state. -/
def stateSize : Nat := 32

/-- The memory of a state that leads to some others without reading. -/
def forkSize (ways : Nat) : Nat := stateSize + 4 * ways

/-- The memory of a state that reads a byte of some ranges. -/
def readSize (ranges : Nat) : Nat := stateSize + 8 * ranges

/-- The memory of the characters of a set. A single one is read byte by byte. Several ones of ASCII
take one state. Others share, reading forward, the states at which the same is left to read, and
reading backward those at which the same was read. -/
def setSize (backward : Bool) (set : CharSet) : Nat :=
  let spans := set.ranges.flatMap byteSpans
  if set.single?.isSome then stateSize * (spans.head?.getD []).length
  else if spans.all (·.length == 1) then readSize spans.length + stateSize
  else if backward then
    forkSize spans.length + stateSize + stateSize * beginnings 4 spans
  else
    stateSize + (suffixes 4 spans).eraseDups.foldl (fun n s => n + readSize (branchesOf s).length) 0

namespace Expr

/-- The memory of a repetition of what takes `size`. -/
def timesSize (size : Nat) (isNullable : Bool) : (min : Nat) → (max : Option Nat) → Nat
  | 0, some 1 => size + forkSize 2 + stateSize
  | 0, none => if isNullable then size + 2 * forkSize 2 + stateSize else size + forkSize 2
  | min, none => min * size + forkSize 2
  | min, some max =>
    if min = max then min * size
    else Nat.max (min * size) stateSize + stateSize + (max - min) * (size + forkSize 2)

/-- The memory of an expression, and the memory of its branches with their number if it is a choice.
What is empty takes none, except where it is all there is. -/
def sizes (backward : Bool) : Expr → Nat × Nat × Nat
  | .empty => (0, stateSize, 1)
  | .one set => let n := setSize backward set; (n, n, 1)
  | .look _ => (stateSize, stateSize, 1)
  | .seq a b => let n := (a.sizes backward).1 + (b.sizes backward).1; (n, Nat.max n stateSize, 1)
  | .alt a b =>
    let (_, m, i) := a.sizes backward
    let (_, n, j) := b.sizes backward
    (m + n + forkSize (i + j) + stateSize, m + n, i + j)
  | .repeat e min max =>
    let n := timesSize (Nat.max (e.sizes backward).1 stateSize) e.isNullable min max
    (n, n, 1)
  | .capture e =>
    let inner := Nat.max (e.sizes backward).1 stateSize
    let n := if backward then inner else inner + 2 * stateSize
    (n, n, 1)

/-- The memory of the automaton of a whole pattern: forward, it also passes over the text in front
of the pattern. -/
def size (backward : Bool) (e : Expr) : Nat :=
  let whole := (Expr.capture e).sizes backward
  let prelude := forkSize 2 + readSize 1 + stateSize
  whole.1 + stateSize + if backward then stateSize else prelude

/-- The memory that the automaton of a pattern may take. -/
def maxSize : Nat := 10485760

/-- Whether the automaton of a pattern may be made, forward and backward. -/
def fits (e : Expr) : Bool := e.size false ≤ maxSize && e.size true ≤ maxSize

end Expr

end Parley.Pattern
