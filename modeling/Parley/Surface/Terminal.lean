import Parley.Output
import Parley.Surface.Basic

/-!
# Terminals

A surface of plain text and typed gestures. Numbers select choices. The key `p` opens the list of
items; there a number holds up an item, which is presented on confirmation, and cancelling backs
out step by step.
-/

namespace Parley

/-- What the gestures of a terminal mean. -/
inductive TerminalMode where
  /-- Numbers select choices. -/
  | choosing
  /-- Numbers hold up items. -/
  | picking
  /-- An item is held up. -/
  | confirming (index : Nat)
  /-- A selection was reported; gestures mean nothing until the next reset. -/
  | spent
deriving DecidableEq

/-- A terminal: the page, the mode, and whether the screen lags behind them. -/
structure Terminal where
  page : Page
  mode : TerminalMode
  dirty : Bool
deriving DecidableEq

namespace Terminal

/-- A terminal that shows nothing yet. -/
def blank : Terminal := ⟨.empty, .choosing, false⟩

/-- Changes the mode; the screen has to be drawn again. -/
def goto (t : Terminal) (mode : TerminalMode) : Terminal :=
  { t with mode, dirty := true }

/-- Reports a selection, if there is one, and is spent then. -/
def deliver (t : Terminal) (selection : Option Selection) : Option Selection × Terminal :=
  match selection with
  | some s => (some s, { t with mode := .spent })
  | none => (none, t)

/-- Holds up the item with a number, when there is one. -/
def holdUp (t : Terminal) (n : Nat) : Terminal :=
  if 1 ≤ n ∧ n ≤ t.page.items.length then t.goto (.confirming (n - 1)) else t

/-- Takes one event. -/
def respond (t : Terminal) (event : InputEvent) : Option Selection × Terminal :=
  match t.mode, event with
  | .choosing, .number n =>
    if 1 ≤ n then t.deliver (t.page.selectionFor (.choice (n - 1))) else (none, t)
  | .choosing, .key c =>
    if c = 'p' ∧ t.page.present.isSome then (none, t.goto .picking) else (none, t)
  | .picking, .number n => (none, t.holdUp n)
  | .picking, .cancel => (none, t.goto .choosing)
  | .confirming _, .number n => (none, t.holdUp n)
  | .confirming _, .cancel => (none, t.goto .picking)
  | .confirming index, .confirm => t.deliver (t.page.selectionFor (.present index))
  | _, _ => (none, t)

instance : Surface Terminal where
  page := Terminal.page
  reset _ := ⟨.empty, .choosing, true⟩
  addText t text := { t with page := t.page.addText text, dirty := true }
  addChoice t label handle := { t with page := t.page.addChoice label handle, dirty := true }
  addPresent t items handle := { t with page := t.page.setPresent items handle, dirty := true }
  respond := Terminal.respond

/-- Numbered lines, counting from one. -/
def numbered (entries : List String) : List String :=
  entries.zipIdx.map fun (entry, i) => "  [" ++ Decimal.ofNat (i + 1) ++ "] " ++ entry

/-- The lines below the texts. -/
def optionLines (p : Page) : TerminalMode → List String
  | .choosing =>
    numbered p.labels ++ if p.present.isSome then ["  [p] present something"] else []
  | .picking =>
    ["What do you present?"] ++ numbered (p.items.map (·.name)) ++ ["  [b] back"]
  | .confirming index =>
    match p.items[index]? with
    | some item => ["You hold up the " ++ item.name ++ ". [enter] present, [b] back"]
    | none => []
  | .spent => []

/-- The lines of the whole screen. -/
def screen (p : Page) (mode : TerminalMode) : List String :=
  [""] ++ p.texts ++ [""] ++ optionLines p mode

/-- Lines as text, each with its line end. -/
def linesText (lines : List String) : String :=
  String.join (lines.map (· ++ "\n"))

/-- Writes the screen if it lags behind, and nothing otherwise. The screen counts as drawn from the
first write on, also when that write or a later one fails. -/
def drawTo (t : Terminal) (out : Output) : Except WriteError Unit × Output × Terminal :=
  if t.dirty then
    let drawn := { t with dirty := false }
    match out.writeLines (screen t.page t.mode) with
    | (.ok (), out) =>
      let (result, out) := out.flush
      (result, out, drawn)
    | (.error e, out) => (.error e, out, drawn)
  else (.ok (), out, t)

/-- Draws in memory, where no write fails. -/
def draw (t : Terminal) : String × Terminal :=
  let (_, out, t) := t.drawTo .memory
  (out.text, t)

end Terminal

end Parley
