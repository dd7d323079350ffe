/-!
# Settings of a game
-/

namespace Parley

/-- Who selects. -/
inductive Mode where
  /-- A player at the terminal. -/
  | interactive
  /-- A script; the empty one leaves everything to chance. -/
  | automated (script : List String)
deriving DecidableEq

/-- The settings of a game. -/
structure Config where
  /-- The seed of all random numbers; without one, a game is different every time. -/
  seed : Option Nat := none
  /-- How many selections an automated playthrough makes at most. -/
  maxTurns : Nat := 32
  mode : Mode := .interactive
deriving DecidableEq

end Parley
