import Parley.CharSet

/-!
# Conditions on gaps

A text of `n` characters has `n + 1` gaps: before, between and behind its characters. Some parts of
a pattern take no character, and ask only between which characters they stand.
-/

namespace Parley.Pattern

/-- The characters on both sides of a gap. -/
structure Gap where
  before : Option Char
  behind : Option Char

/-- The gaps of a text behind a given character. -/
def gapsFrom : Option Char → List Char → List Gap
  | before, [] => [⟨before, none⟩]
  | before, c :: cs => ⟨before, some c⟩ :: gapsFrom (some c) cs

/-- The gaps of a text. -/
def gaps (text : List Char) : List Gap := gapsFrom none text

/-- Conditions on a gap. -/
inductive Look where
  | textStart
  | textEnd
  | lineStart
  | lineEnd
  /-- As `lineStart`, where a carriage return ends a line too. -/
  | lineStartCR
  /-- As `lineEnd`, where a carriage return ends a line too. -/
  | lineEndCR
  | boundary (word : CharSet)
  | notBoundary (word : CharSet)
  | wordStart (word : CharSet)
  | wordEnd (word : CharSet)
  /-- No word ends or goes on before the gap. -/
  | wordStartHalf (word : CharSet)
  /-- No word starts or goes on behind the gap. -/
  | wordEndHalf (word : CharSet)

/-- Whether a gap meets a condition. -/
def Look.holds (look : Look) (g : Gap) : Bool :=
  match look with
  | .textStart => g.before.isNone
  | .textEnd => g.behind.isNone
  | .lineStart => g.before.isNone || g.before == some '\n'
  | .lineEnd => g.behind.isNone || g.behind == some '\n'
  | .lineStartCR =>
    g.before.isNone || g.before == some '\n' || (g.before == some '\r' && g.behind != some '\n')
  | .lineEndCR =>
    g.behind.isNone || g.behind == some '\r' || (g.behind == some '\n' && g.before != some '\r')
  | .boundary word => g.before.any word.contains != g.behind.any word.contains
  | .notBoundary word => g.before.any word.contains == g.behind.any word.contains
  | .wordStart word => !g.before.any word.contains && g.behind.any word.contains
  | .wordEnd word => g.before.any word.contains && !g.behind.any word.contains
  | .wordStartHalf word => !g.before.any word.contains
  | .wordEndHalf word => !g.behind.any word.contains

end Parley.Pattern
