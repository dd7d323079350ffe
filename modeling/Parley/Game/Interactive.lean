import Parley.Game.Layers
import Parley.Scenario.File

/-!
# Interactive play

A loop of drawing, prompting and reading one line, from the menu until the player quits or the
input ends.
-/

namespace Parley

/-- A game at the terminal: the stack of layers, and the host below it. -/
structure Game where
  stack : LayerStack GameLayer
  host : Host

namespace Game

/-- A game at its start, with the menu on the stack. -/
def start (s : Scenario) (source : Random.Source) : Game :=
  ⟨LayerStack.empty.push .menu, .ofScenario s source⟩

/-- Feeds one event. -/
def step (g : Game) (event : InputEvent) : Dispatch × Game :=
  let (dispatch, stack, host) := g.stack.step GameLayer.freshNotice g.host event
  (dispatch, ⟨stack, host⟩)

/-- What is written before a line is read. -/
def prompt (g : Game) : String × Game :=
  let (text, stack, host) := g.stack.draw g.host
  (text ++ "> ", ⟨stack, host⟩)

/-- What is written when the game is over. -/
def farewell : String := "Farewell.\n"

/-- The game after a typed line, or nothing when it is over. -/
def feed (g : Game) (line : String) : Option Game :=
  match InputEvent.ofLine line with
  | none => some g
  | some event =>
    let (dispatch, g) := g.step event
    if dispatch = .quit ∨ g.stack.isEmpty then none else some g

/-- Plays the lines of an input, of which one may be unreadable. The result is what was written,
and whether the input could be read. -/
def play (g : Game) : List (Option String) → String × Bool
  | [] => (g.prompt.1 ++ farewell, true)
  | none :: _ => (g.prompt.1, false)
  | some line :: rest =>
    match g.prompt.2.feed line with
    | none => (g.prompt.1 ++ farewell, true)
    | some next =>
      let (text, readable) := next.play rest
      (g.prompt.1 ++ text, readable)

end Game

end Parley
