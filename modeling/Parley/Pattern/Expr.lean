import Parley.Pattern.Look

/-!
# Pattern expressions

What a pattern is made of. Long sequences and choices are built as balanced trees, so that no
expression is deeper than its parts are nested.
-/

namespace Parley.Pattern

/-- A pattern. -/
inductive Expr where
  /-- Nothing, at any gap. -/
  | empty
  /-- One character of a set. -/
  | one (set : CharSet)
  | look (condition : Look)
  /-- One expression behind the other. -/
  | seq (a b : Expr)
  /-- Either of two expressions. -/
  | alt (a b : Expr)
  /-- An expression repeated at least `min` times and, if there is a limit, at most `max` times. -/
  | repeat (e : Expr) (min : Nat) (max : Option Nat)
  /-- An expression whose place in the text is asked for. -/
  | capture (e : Expr)

namespace Expr

/-- Joins some expressions, of which there are at most `fuel`, by halves. -/
def balanced (join : Expr → Expr → Expr) (none : Expr) : (fuel : Nat) → List Expr → Expr
  | 0, _ => none
  | _, [] => none
  | _, [e] => e
  | fuel + 1, es =>
    let half := es.length / 2
    join (balanced join none fuel (es.take half)) (balanced join none fuel (es.drop half))

/-- Some expressions one behind the other. -/
def seqAll (es : List Expr) : Expr := balanced .seq .empty es.length es

/-- The set of an expression that takes one character of a set. -/
def set? : Expr → Option CharSet
  | .one set => some set
  | _ => none

/-- Any of some expressions. A choice between sets is the union of the sets. -/
def altAll (es : List Expr) : Expr :=
  if es.all (·.set?.isSome) then .one (.unionAll (es.filterMap set?))
  else balanced .alt .empty es.length es

/-- Whether an expression takes no characters at all. -/
def isWidthless : Expr → Bool
  | .empty => true
  | .one _ => false
  | .look _ => true
  | .seq a b => a.isWidthless && b.isWidthless
  | .alt a b => a.isWidthless && b.isWidthless
  | .repeat e _ _ => e.isWidthless
  | .capture e => e.isWidthless

/-- Whether an expression may take no characters. -/
def isNullable : Expr → Bool
  | .empty => true
  | .one _ => false
  | .look _ => true
  | .seq a b => a.isNullable && b.isNullable
  | .alt a b => a.isNullable || b.isNullable
  | .repeat e min _ => min == 0 || e.isNullable
  | .capture e => e.isNullable

/-- Repeats an expression. One that takes no characters need not be repeated more than once. -/
def times (e : Expr) (min : Nat) (max : Option Nat) : Expr :=
  let (min, max) := if e.isWidthless then (Nat.min min 1, some (Nat.min (max.getD 1) 1))
    else (min, max)
  if max = some 0 then .empty
  else if min = 1 ∧ max = some 1 then e
  else .repeat e min max

/-! ## Nested repetitions -/

/-- Whether repeating `a` to `b` times what is itself repeated, from `min` to `max` times, gives
every number of repetitions between the least and the greatest one. -/
def isContiguous (a : Nat) (b : Option Nat) (min : Nat) (max : Option Nat) : Bool :=
  max == some min ||
    match b with
    | none => 0 < min || a ≤ 1
    | some b => (min + 1) * a ≤ min * b + 1

/-- Repeats an expression, as one repetition with those inside if that comes to the same. -/
def merge (e : Expr) (min : Nat) (max : Option Nat) : Expr :=
  match e with
  | .repeat inner a b =>
    if isContiguous a b min max then
      .repeat inner (a * min) (b.bind fun b => max.map (b * ·))
    else .repeat e min max
  | e => .repeat e min max

/-- An expression that occurs at the same places, without captures and with fewer nested
repetitions. -/
def plain : Expr → Expr
  | .seq a b => .seq a.plain b.plain
  | .alt a b => .alt a.plain b.plain
  | .repeat e min max => merge e.plain min max
  | .capture e => e.plain
  | e => e

end Expr

end Parley.Pattern
