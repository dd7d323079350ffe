import Parley.Dialogue.Item

/-!
# Pages

What a surface shows of one episode, and the ways to refer to its options: a pick names an option
by its place on the page, a selection names it by the episode that it belongs to.
-/

namespace Parley

/-- Stands for one choice of one episode. -/
structure ChoiceHandle where
  episode : Nat
  index : Nat
deriving DecidableEq

/-- Stands for the presentation of one episode. -/
structure PresentHandle where
  episode : Nat
deriving DecidableEq

/-- An option of an episode that was selected. -/
inductive Selection where
  | choice (handle : ChoiceHandle)
  | present (handle : PresentHandle) (item : Item)
deriving DecidableEq

/-- The episode that a selection names. -/
def Selection.episode : Selection → Nat
  | .choice handle => handle.episode
  | .present handle _ => handle.episode

/-- An option by its place on the page, counting from zero. -/
inductive Pick where
  | choice (index : Nat)
  | present (index : Nat)
deriving DecidableEq

/-- What is shown: texts, labelled choices, and items that can be presented. -/
structure Page where
  texts : List String
  choices : List (String × ChoiceHandle)
  present : Option (List Item × PresentHandle)
deriving DecidableEq

namespace Page

/-- A page with nothing on it. -/
def empty : Page := ⟨[], [], none⟩

/-- Adds a text at the end. -/
def addText (p : Page) (text : String) : Page := { p with texts := p.texts ++ [text] }

/-- Adds a choice at the end. -/
def addChoice (p : Page) (label : String) (handle : ChoiceHandle) : Page :=
  { p with choices := p.choices ++ [(label, handle)] }

/-- Sets the items that can be presented. -/
def setPresent (p : Page) (items : List Item) (handle : PresentHandle) : Page :=
  { p with present := some (items, handle) }

/-- The labels of the choices. -/
def labels (p : Page) : List String := p.choices.map (·.1)

/-- The items that can be presented. -/
def items (p : Page) : List Item := (p.present.map (·.1)).getD []

/-- The selection that a pick stands for, if the page offers it. -/
def selectionFor (p : Page) : Pick → Option Selection
  | .choice index => p.choices[index]?.map fun (_, handle) => .choice handle
  | .present index =>
    match p.present with
    | some (items, handle) => items[index]?.map (.present handle)
    | none => none

/-- Whether the page offers nothing: neither a choice nor a presentation, be it of no items. -/
def isStalled (p : Page) : Bool := p.choices.isEmpty && p.present.isNone

/-- The option that a pick stands for, in words. -/
def describe (p : Page) : Pick → Option String
  | .choice index => p.labels[index]?
  | .present index => p.items[index]?.map fun item => "present " ++ item.name

end Page

end Parley
