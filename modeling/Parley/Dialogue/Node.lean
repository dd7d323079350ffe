import Parley.Dialogue.Item
import Parley.Dialogue.Key
import Parley.Dialogue.State
import Parley.Random.Source

/-!
# Nodes

A node is one point of a conversation: what the character says there, and what it offers the
player. Both may depend on the character; the words may also depend on chance. Only the action
behind an offer changes the character's state, and it steers the conversation by requests.
-/

namespace Parley

/-- A request of an action to move the conversation. -/
inductive Navigation where
  /-- Go on with a random key of the frontier. -/
  | resume
  /-- Go on with the given key. -/
  | jump (key : Key)
  /-- Put the key into the frontier, without moving. -/
  | restart (key : Key)
deriving DecidableEq

/-- What happens on a choice: a change of the state, and requests in order. -/
abbrev Action := State → State × List Navigation

/-- What a node can see of the character that speaks. -/
structure Speaker where
  identity : String
  state : State

/-- A labelled choice. -/
structure Choice where
  label : String
  action : Action

/-- An offer to present one item of a collection. -/
structure Presentation where
  collection : String
  action : Item → Action

/-- What a node offers. -/
structure ChoiceSet where
  choices : List Choice
  presentation : Option Presentation

namespace ChoiceSet

/-- No offer at all. -/
def empty : ChoiceSet := ⟨[], none⟩

/-- Adds a choice behind the others. -/
def withChoice (s : ChoiceSet) (label : String) (action : Action) : ChoiceSet :=
  { s with choices := s.choices ++ [⟨label, action⟩] }

/-- Sets the presentation, in the place of an earlier one. -/
def withPresentation (s : ChoiceSet) (collection : String) (action : Item → Action) : ChoiceSet :=
  { s with presentation := some ⟨collection, action⟩ }

/-- Whether nothing is offered. -/
def isEmpty (s : ChoiceSet) : Bool := s.choices.isEmpty && s.presentation.isNone

/-- The labels of the choices. -/
def labels (s : ChoiceSet) : List String := s.choices.map (·.label)

end ChoiceSet

/-- One point of a conversation. -/
structure Node where
  /-- The words, drawn with the help of a source of random numbers. -/
  utter : Speaker → Random.Source → String × Random.Source
  /-- The offers. -/
  offer : Speaker → ChoiceSet

namespace Node

/-- A node with the same words every time and no offers. -/
def fixed (text : String) : Node :=
  ⟨fun _ source => (text, source), fun _ => .empty⟩

/-- A node with one of several texts, drawn anew every time, and no offers. -/
def variants (texts : List String) : Node :=
  ⟨fun _ source =>
    let (text, source) := source.choose .single texts
    (text.getD "", source), fun _ => .empty⟩

/-- A node whose words depend on the speaker, without offers. -/
def computed (text : Speaker → String) : Node :=
  ⟨fun speaker source => (text speaker, source), fun _ => .empty⟩

/-- The same words with other offers. -/
def withOffer (n : Node) (offer : Speaker → ChoiceSet) : Node :=
  { n with offer }

end Node

end Parley
