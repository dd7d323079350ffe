import Parley.Scenario.Template

/-!
# Scripted nodes

Nodes that are written as data: templates for the words, choices behind guards, and lists of steps
for actions. A step either changes the state or requests a move, never both.
-/

namespace Parley

/-- One instruction of a scripted action. -/
inductive Step where
  | set (key : String) (value : Json.Value)
  | increment (key : String) (amount : Int)
  | restart (key : Key)
  | resume
  | jump (key : Key)

namespace Step

/-- What a step does to the state. -/
def apply (s : State) : Step → State
  | .set key value => s.set key value
  | .increment key amount => s.increment key amount
  | .restart _ | .resume | .jump _ => s

/-- What a step requests. -/
def request? : Step → Option Navigation
  | .restart key => some (.restart key)
  | .resume => some .resume
  | .jump key => some (.jump key)
  | .set _ _ | .increment _ _ => none

/-- The action of a list of steps, one after the other. -/
def run : List Step → Action
  | [], s => (s, [])
  | step :: rest, s =>
    let (s, requests) := run rest (step.apply s)
    (s, step.request?.toList ++ requests)

end Step

/-- A condition on a variable. -/
structure Guard where
  key : String
  equals : Json.Value

/-- Whether a variable has the value that a guard asks for; without a value it counts as null. -/
def Guard.holds (g : Guard) (s : State) : Bool :=
  ((s.get? g.key).getD .null).same g.equals

/-- A choice of a scripted node. -/
structure ScriptChoice where
  label : String
  /-- The choice is offered only while its guard holds. -/
  guard : Option Guard
  steps : List Step

/-- Whether a choice is offered. -/
def ScriptChoice.isOffered (c : ScriptChoice) (s : State) : Bool :=
  match c.guard with
  | some guard => guard.holds s
  | none => true

/-- The steps for one item. -/
structure ScriptCase where
  item : Item
  steps : List Step

/-- A presentation of a scripted node: the steps for some items, and those for all others. -/
structure ScriptPresentation where
  collection : String
  cases : List ScriptCase
  otherwise : List Step

/-- The steps for an item: those of the first case that names it. -/
def ScriptPresentation.stepsFor (p : ScriptPresentation) (item : Item) : List Step :=
  match p.cases.find? (·.item == item) with
  | some found => found.steps
  | none => p.otherwise

/-- The words of a scripted node: one template, or one of several. -/
inductive ScriptText where
  | line (template : String)
  | variants (templates : List String)

/-- A node as it is written in a scenario. -/
structure ScriptNode where
  text : ScriptText
  choices : List ScriptChoice
  present : Option ScriptPresentation

namespace ScriptNode

/-- The template for the next words. -/
def template (n : ScriptNode) (source : Random.Source) : String × Random.Source :=
  match n.text with
  | .line template => (template, source)
  | .variants templates =>
    let (drawn, source) := source.choose .single templates
    (drawn.getD "", source)

/-- The offers in a state. -/
def choiceSet (n : ScriptNode) (s : State) : ChoiceSet where
  choices := (n.choices.filter (·.isOffered s)).map fun c => ⟨c.label, Step.run c.steps⟩
  presentation := n.present.map fun p => ⟨p.collection, fun item => Step.run (p.stepsFor item)⟩

/-- The node that a scripted node describes. -/
def toNode (n : ScriptNode) : Node where
  utter speaker source :=
    let (template, source) := n.template source
    (Template.fill template speaker, source)
  offer speaker := n.choiceSet speaker.state

end ScriptNode

end Parley
