/-!
# Runs of case pairs

Case tables are nearly regular: whole stretches of characters, or every other one of them, are
moved by the same distance. A `CaseRun` describes one such stretch, and a table is a list of runs.
-/

namespace Parley.Unicode

/-- Every `stride`-th character from `first` to `last` is moved by `offset`. -/
structure CaseRun where
  first : Nat
  last : Nat
  stride : Nat
  offset : Int

namespace CaseRun

/-- Where a run moves a code point, if the run covers it. -/
def image? (r : CaseRun) (n : Nat) : Option Nat :=
  if r.first ≤ n ∧ n ≤ r.last ∧ (n - r.first) % r.stride = 0 then
    some (n + r.offset).toNat
  else
    none

/-- All code points that a run covers, with the ones to which it moves them. -/
def pairs (r : CaseRun) : List (Nat × Nat) :=
  (List.range' r.first ((r.last - r.first) / r.stride + 1) r.stride).map fun n =>
    (n, (n + r.offset).toNat)

end CaseRun

end Parley.Unicode
