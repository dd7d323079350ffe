import Parley.Numeric.Decimal
import Parley.Text.Blank
import Parley.Text.Lowercase

/-!
# Input events

A gesture of the user, and the gesture that a typed line stands for.
-/

namespace Parley

/-- A gesture of the user. -/
inductive InputEvent where
  /-- Go ahead. -/
  | confirm
  /-- Back out. -/
  | cancel
  /-- A numbered option, counting from one. -/
  | number (n : Nat)
  /-- A single key. -/
  | key (c : Char)
  /-- No gesture at all; surfaces without a user act on it. -/
  | tick
deriving DecidableEq

namespace InputEvent

/-- The words that back out. -/
def cancelWords : List String := ["b", "back", "esc"]

/-- The gesture of a line without the blanks around it. -/
def ofTrimmed (cs : List Char) : Option InputEvent :=
  if cs.isEmpty then some .confirm
  else
    match Decimal.read Decimal.wordBound cs with
    | .ok n => some (.number n)
    | .error _ =>
      let lower := Text.lowercaseAll cs
      if String.ofList lower ∈ cancelWords then some .cancel
      else
        match lower with
        | [c] => some (.key c)
        | _ => none

/-- The gesture that a typed line stands for, if any: an empty line goes ahead, digits are a
number, one of three words backs out, and any other single character is a key. -/
def ofLine (line : String) : Option InputEvent :=
  ofTrimmed (Text.trim line.toList)

end InputEvent

end Parley
