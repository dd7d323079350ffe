import Parley.Json.Record
import Parley.Scenario.Basic
import Parley.Scenario.Script

/-!
# Scenario files

The JSON form of scenarios. Each record is read into a draft in which every field may be missing,
and the draft is completed with the defaults of the fields that may be left out.
-/

namespace Parley

open Json (Reader)

/-! ## Steps -/

/-- A draft of a step that sets a variable. -/
structure SetDraft where
  key : Option String := none
  value : Option Json.Value := none

/-- The fields of a step that sets a variable. -/
def SetDraft.layout : Reader.Layout SetDraft where
  title := "struct variant Step::Set"
  fields := [
    { name := "key", required := true, isSet := (·.key.isSome)
      read := fun _ d => return { d with key := some (← Reader.string "a string") } },
    { name := "value", required := true, isSet := (·.value.isSome)
      read := fun depth d => return { d with value := some (← Reader.value depth) } }]

/-- A draft of a step that adds to a counter. -/
structure IncrementDraft where
  key : Option String := none
  amount : Option Int := none

/-- The fields of a step that adds to a counter; the amount is one by default. -/
def IncrementDraft.layout : Reader.Layout IncrementDraft where
  title := "struct variant Step::Increment"
  fields := [
    { name := "key", required := true, isSet := (·.key.isSome)
      read := fun _ d => return { d with key := some (← Reader.string "a string") } },
    { name := "by", required := false, isSet := (·.amount.isSome)
      read := fun _ d => return { d with amount := some (← Reader.signed) } }]

/-- The kinds of steps. -/
inductive StepKind where
  | set
  | increment
  | restart
  | resume
  | jump

/-- The names of the kinds of steps. -/
def StepKind.names : List (String × StepKind) :=
  [("set", .set), ("increment", .increment), ("restart", .restart), ("resume", .resume),
   ("jump", .jump)]

/-- Reads the name of a kind of steps. -/
def StepKind.read : Reader StepKind := do
  let name ← Reader.string "variant identifier"
  match StepKind.names.lookup name with
  | some kind => return kind
  | none => throw (.unknownVariant name (StepKind.names.map (·.1)))

/-- The step that the bare name of a kind stands for. -/
def StepKind.bare : StepKind → Reader Step
  | .resume => return .resume
  | .restart | .jump => throw (.invalidType .unitVariant "newtype variant")
  | .set | .increment => throw (.invalidType .unitVariant "struct variant")

/-- Reads what belongs to a kind of steps. -/
def StepKind.content (depth : Nat) : StepKind → Reader Step
  | .set => do
    let d ← SetDraft.layout.read {} depth
    return .set (← Reader.require "key" d.key) (← Reader.require "value" d.value)
  | .increment => do
    let d ← IncrementDraft.layout.read {} depth
    return .increment (← Reader.require "key" d.key) (d.amount.getD 1)
  | .restart => return .restart (← Key.read depth)
  | .resume => do
    Reader.unit
    return .resume
  | .jump => return .jump (← Key.read depth)

/-- Reads a step: the bare name of a kind, or an object with the name as its only member. -/
def Step.read (depth : Nat) : Reader Step := do
  let c ← Reader.valueStart
  if c = '\x7b' then
    match depth with
    | 0 => throw .tooDeep
    | depth + 1 => do
      Reader.advance
      let kind ← StepKind.read
      Reader.colon
      let step ← kind.content depth
      match ← Reader.peek with
      | none => throw .endInObject
      | some c =>
        if c = '\x7d' then do
          Reader.advance
          return step
        else
          throw .expectedValue
  else if c = '\"' then do
    let kind ← StepKind.read
    kind.bare
  else
    throw .expectedValue

/-- Reads a list of steps. -/
def Step.readList (depth : Nat) : Reader (List Step) := Reader.list depth Step.read

/-! ## Choices -/

/-- A draft of a guard. -/
structure GuardDraft where
  key : Option String := none
  equals : Option Json.Value := none

/-- The fields of a guard. -/
def GuardDraft.layout : Reader.Layout GuardDraft where
  title := "struct Condition"
  fields := [
    { name := "key", required := true, isSet := (·.key.isSome)
      read := fun _ d => return { d with key := some (← Reader.string "a string") } },
    { name := "equals", required := true, isSet := (·.equals.isSome)
      read := fun depth d => return { d with equals := some (← Reader.value depth) } }]

/-- Reads a guard. -/
def Guard.read (depth : Nat) : Reader Guard := do
  let d ← GuardDraft.layout.read {} depth
  return ⟨← Reader.require "key" d.key, ← Reader.require "equals" d.equals⟩

/-- A draft of a choice. -/
structure ChoiceDraft where
  label : Option String := none
  guard : Option (Option Guard) := none
  steps : Option (List Step) := none

/-- The fields of a choice; it is unguarded and does nothing by default. -/
def ChoiceDraft.layout : Reader.Layout ChoiceDraft where
  title := "struct ChoiceSpec"
  fields := [
    { name := "label", required := true, isSet := (·.label.isSome)
      read := fun _ d => return { d with label := some (← Reader.string "a string") } },
    { name := "when", required := false, isSet := (·.guard.isSome)
      read := fun depth d =>
        return { d with guard := some (← Reader.optional (Guard.read depth)) } },
    { name := "then", required := false, isSet := (·.steps.isSome)
      read := fun depth d => return { d with steps := some (← Step.readList depth) } }]

/-- Reads a choice. -/
def ScriptChoice.read (depth : Nat) : Reader ScriptChoice := do
  let d ← ChoiceDraft.layout.read {} depth
  return ⟨← Reader.require "label" d.label, d.guard.getD none, d.steps.getD []⟩

/-! ## Presentations -/

/-- A draft of a case. -/
structure CaseDraft where
  item : Option Item := none
  steps : Option (List Step) := none

/-- The fields of a case. -/
def CaseDraft.layout : Reader.Layout CaseDraft where
  title := "struct PresentCase"
  fields := [
    { name := "item", required := true, isSet := (·.item.isSome)
      read := fun depth d => return { d with item := some (← Item.read depth) } },
    { name := "then", required := true, isSet := (·.steps.isSome)
      read := fun depth d => return { d with steps := some (← Step.readList depth) } }]

/-- Reads a case. -/
def ScriptCase.read (depth : Nat) : Reader ScriptCase := do
  let d ← CaseDraft.layout.read {} depth
  return ⟨← Reader.require "item" d.item, ← Reader.require "then" d.steps⟩

/-- A draft of a presentation. -/
structure PresentationDraft where
  collection : Option String := none
  cases : Option (List ScriptCase) := none
  otherwise : Option (List Step) := none

/-- The fields of a presentation; by default there are no cases and nothing happens. -/
def PresentationDraft.layout : Reader.Layout PresentationDraft where
  title := "struct PresentSpec"
  fields := [
    { name := "collection", required := true, isSet := (·.collection.isSome)
      read := fun _ d => return { d with collection := some (← Reader.string "a string") } },
    { name := "cases", required := false, isSet := (·.cases.isSome)
      read := fun depth d =>
        return { d with cases := some (← Reader.list depth ScriptCase.read) } },
    { name := "otherwise", required := false, isSet := (·.otherwise.isSome)
      read := fun depth d => return { d with otherwise := some (← Step.readList depth) } }]

/-- Reads a presentation. -/
def ScriptPresentation.read (depth : Nat) : Reader ScriptPresentation := do
  let d ← PresentationDraft.layout.read {} depth
  return ⟨← Reader.require "collection" d.collection, d.cases.getD [], d.otherwise.getD []⟩

/-! ## Nodes -/

/-- The strings of a list of values, if all of them are strings. -/
def stringsOf? : List Json.Value → Option (List String)
  | [] => some []
  | .string s :: rest => (stringsOf? rest).map (s :: ·)
  | _ :: _ => none

/-- The words that a JSON value stands for: one template, or a list of them. -/
def ScriptText.ofValue? : Json.Value → Option ScriptText
  | .string s => some (.line s)
  | .array items => (stringsOf? items).map .variants
  | _ => none

/-- Reads the words of a node. -/
def ScriptText.read (depth : Nat) : Reader ScriptText := do
  match ScriptText.ofValue? (← Reader.value depth) with
  | some text => return text
  | none => throw (.noVariant "TextSpec")

/-- A draft of a node. -/
structure NodeDraft where
  text : Option ScriptText := none
  choices : Option (List ScriptChoice) := none
  present : Option (Option ScriptPresentation) := none

/-- The fields of a node; by default it offers nothing. -/
def NodeDraft.layout : Reader.Layout NodeDraft where
  title := "struct ScriptNode"
  fields := [
    { name := "text", required := true, isSet := (·.text.isSome)
      read := fun depth d => return { d with text := some (← ScriptText.read depth) } },
    { name := "choices", required := false, isSet := (·.choices.isSome)
      read := fun depth d =>
        return { d with choices := some (← Reader.list depth ScriptChoice.read) } },
    { name := "present", required := false, isSet := (·.present.isSome)
      read := fun depth d =>
        return { d with present := some (← Reader.optional (ScriptPresentation.read depth)) } }]

/-- Reads a node. -/
def ScriptNode.read (depth : Nat) : Reader ScriptNode := do
  let d ← NodeDraft.layout.read {} depth
  return ⟨← Reader.require "text" d.text, d.choices.getD [], d.present.getD none⟩

/-! ## Characters and scenarios -/

/-- A character as it is written in a file. -/
structure ScriptNpc where
  name : String
  state : State
  nodes : Dictionary ScriptNode

/-- A draft of a character. -/
structure NpcDraft where
  name : Option String := none
  state : Option State := none
  nodes : Option (Dictionary ScriptNode) := none

/-- The fields of a character; by default its state is empty. -/
def NpcDraft.layout : Reader.Layout NpcDraft where
  title := "struct NpcSpec"
  fields := [
    { name := "name", required := true, isSet := (·.name.isSome)
      read := fun _ d => return { d with name := some (← Reader.string "a string") } },
    { name := "state", required := false, isSet := (·.state.isSome)
      read := fun depth d => return { d with state := some (← State.read depth) } },
    { name := "graph", required := true, isSet := (·.nodes.isSome)
      read := fun depth d =>
        return { d with nodes := some (← Reader.dictionary depth ScriptNode.read) } }]

/-- Reads a character. -/
def ScriptNpc.read (depth : Nat) : Reader ScriptNpc := do
  let d ← NpcDraft.layout.read {} depth
  return ⟨← Reader.require "name" d.name, d.state.getD .empty, ← Reader.require "graph" d.nodes⟩

/-- The character that a written one describes. -/
def ScriptNpc.toNpc (n : ScriptNpc) : Npc where
  identity := n.name
  state := n.state
  graph := n.nodes.entries.foldl (fun g (key, node) => g.insert ⟨key⟩ node.toNode) .empty

/-- A scenario as it is written in a file. -/
structure ScenarioFile where
  collections : Collections
  entryKeys : List Key
  npcs : List ScriptNpc

/-- A draft of a scenario. -/
structure ScenarioDraft where
  collections : Option Collections := none
  entryKeys : Option (List Key) := none
  npcs : Option (List ScriptNpc) := none

/-- The fields of a scenario; by default there are no collections, and one entry key. -/
def ScenarioDraft.layout : Reader.Layout ScenarioDraft where
  title := "struct ScenarioFile"
  fields := [
    { name := "collections", required := false, isSet := (·.collections.isSome)
      read := fun depth d => return { d with collections := some (← Collections.read depth) } },
    { name := "entry_keys", required := false, isSet := (·.entryKeys.isSome)
      read := fun depth d => return { d with entryKeys := some (← Key.readList depth) } },
    { name := "npcs", required := true, isSet := (·.npcs.isSome)
      read := fun depth d => return { d with npcs := some (← Reader.list depth ScriptNpc.read) } }]

namespace ScenarioFile

/-- Reads a scenario. -/
def read (depth : Nat) : Reader ScenarioFile := do
  let d ← ScenarioDraft.layout.read {} depth
  return ⟨d.collections.getD .empty, d.entryKeys.getD [.entry], ← Reader.require "npcs" d.npcs⟩

/-- Reads a scenario from its text. -/
def parse (text : String) : Except Json.Fault ScenarioFile := Reader.ofText read text

/-- The scenario that a written one describes; it needs somebody to talk to. -/
def build (f : ScenarioFile) : Except ScenarioError Scenario :=
  if f.npcs.isEmpty then .error .noNpcs
  else .ok ⟨f.npcs.map ScriptNpc.toNpc, f.collections, f.entryKeys⟩

end ScenarioFile

namespace Scenario

/-- The scenario of a text. -/
def ofText (text : String) : Except ScenarioError Scenario :=
  match ScenarioFile.parse text with
  | .ok file => file.build
  | .error fault => .error (.invalid fault)

/-- The reason why bytes are no text. -/
def notText : String := "stream did not contain valid UTF-8"

/-- The scenario of a file; `contents` are the bytes of the file, or the reason why they could not
be read. -/
def ofFile (path : String) (contents : Except String ByteArray) : Except ScenarioError Scenario :=
  match contents with
  | .error reason => .error (.unreadable path reason)
  | .ok bytes =>
    match String.fromUTF8? bytes with
    | some text => ofText text
    | none => .error (.unreadable path notText)

end Scenario

end Parley
