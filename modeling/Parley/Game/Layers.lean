import Parley.Game.Host
import Parley.Modal.Stack

/-!
# The layers of the game

The menu lies at the bottom. A conversation or a notice lies on top of it, and a conversation that
is over gives way to a notice.
-/

namespace Parley

/-- The layers of the game. -/
inductive GameLayer where
  /-- Whom to talk to. -/
  | menu
  /-- A live conversation with the character at a position. -/
  | conversation (index : Nat)
  /-- A message that waits for confirmation; it is drawn once. -/
  | notice (message : String) (shown : Bool)
deriving DecidableEq

namespace GameLayer

/-- A message that was not drawn yet. -/
def freshNotice (message : String) : GameLayer := .notice message false

/-- The name of a layer. -/
def name : GameLayer → String
  | .menu => "menu"
  | .conversation _ => "conversation"
  | .notice _ _ => "notice"

/-- Starts a conversation from the menu, or tells why there is none. -/
def startTalk (h : Host) (index : Nat) : Flow GameLayer × Host :=
  match h.talkTo index with
  | (.ok (), h) => (.push (.conversation index), h)
  | (.error e, h) => (.push (freshNotice (h.describe e)), h.leave)

/-- Takes an event on the menu. -/
def handleMenu (h : Host) : InputEvent → Flow GameLayer × Host
  | .number n => if 1 ≤ n ∧ n ≤ h.npcs.length then startTalk h (n - 1) else (.stay, h)
  | .key c => if c = 'q' then (.quit, h) else (.stay, h)
  | _ => (.stay, h)

/-- Takes an event in a conversation. -/
def handleConversation (h : Host) (index : Nat) (event : InputEvent) :
    Except DialogueError (Flow GameLayer) × Host :=
  if event = .key 'l' then
    (.ok (.replace (freshNotice ("You walk away from " ++ h.partner ++ "."))), h.leave)
  else
    match h.converse index event with
    | (.error e, h) => (.error e, h)
    | (.ok (some .stalled), h) =>
      (.ok (.replace (freshNotice (h.partner ++ " falls silent."))), h.leave)
    | (.ok _, h) => (.ok .stay, h)

/-- Takes an event. -/
def handle (layer : GameLayer) (h : Host) (event : InputEvent) :
    Except DialogueError (Flow GameLayer) × GameLayer × Host :=
  match layer with
  | .menu =>
    let (flow, h) := handleMenu h event
    (.ok flow, layer, h)
  | .conversation index =>
    let (flow, h) := handleConversation h index event
    (flow, layer, h)
  | .notice _ _ => (.ok (if event = .confirm then .pop else .stay), layer, h)

/-- The lines of the menu. -/
def menuLines (h : Host) : List String :=
  ["", "pick someone to talk to"] ++ Terminal.numbered (h.npcs.map (·.identity)) ++ ["  [q] quit"]

/-- Draws the page of a conversation, and below it how to leave. -/
def drawConversation (h : Host) (out : Output) : Except WriteError Unit × Output × Host :=
  if h.conversation.surface.dirty then
    let (result, out, surface) := h.conversation.surface.drawTo out
    let h := { h with conversation := { h.conversation with surface } }
    match result with
    | .ok () =>
      let (result, out) := out.writeLine "  [l] leave"
      (result, out, h)
    | .error e => (.error e, out, h)
  else (.ok (), out, h)

/-- Draws a layer. A notice counts as drawn from its first write on. -/
def drawTo (layer : GameLayer) (h : Host) (out : Output) :
    Except WriteError Unit × Output × GameLayer × Host :=
  match layer with
  | .menu =>
    let (result, out) := out.writeLines (menuLines h)
    (result, out, layer, h)
  | .conversation _ =>
    let (result, out, h) := drawConversation h out
    (result, out, layer, h)
  | .notice message shown =>
    if shown then (.ok (), out, layer, h)
    else
      let (result, out) := out.writeLines ["", message ++ " [press enter to continue]"]
      (result, out, .notice message true, h)

instance : Layer GameLayer Host DialogueError where
  name := GameLayer.name
  handle := GameLayer.handle
  drawTo := GameLayer.drawTo

end GameLayer

/-- Feeds one event to a stack of layers. When the top layer fails, a notice takes its place and
the session ends; `notice` makes the layer of a message. -/
def LayerStack.step {L : Type} [Layer L Host DialogueError] (notice : String → L)
    (s : LayerStack L) (h : Host) (event : InputEvent) : Dispatch × LayerStack L × Host :=
  match s.dispatch h event with
  | (.ok dispatch, s, h) => (dispatch, s, h)
  | (.error e, s, h) => (.handled, s.push (notice (h.describe e)), h.leave)

end Parley
