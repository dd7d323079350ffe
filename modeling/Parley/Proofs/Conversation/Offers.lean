import Parley.Proofs.Conversation.Coherence
import Parley.Proofs.Scenario.Script

/-!
# Offers

What is shown is what runs. An option of a page is referred to by its place there, but its action is
found by its place among the actions of the episode, or by the item that it presents. `Runs` says
which action a selection runs, and `shown_runs` that for every option of the page of a visit this is
the action that the node put behind it.
-/

namespace Parley.Conversation

variable {σ : Type} [Surface σ]

/-- The selection is accepted and runs this action: once, on the state that the character has by
then, and with nothing but its requests followed. -/
structure Runs (c : Conversation σ) (s : Selection) (action : Action) : Prop where
  accepted : c.accept s = .ok action
  selected (npc : Npc) : c.select npc s =
    let followed := c.consumed.follow (npc.acted action) (action npc.state).2 .stalled
    (followed.1, followed.2, npc.acted action)

/-- The selection is accepted and executes these steps: the changes of the state in order, and then
the requests in order. -/
structure Executes (c : Conversation σ) (s : Selection) (steps : List Parley.Step) : Prop where
  accepted : c.accept s = .ok (Parley.Step.run steps)
  selected (npc : Npc) : c.select npc s =
    let after := { npc with state := steps.foldl Parley.Step.apply npc.state }
    let followed := c.consumed.follow after (steps.filterMap Parley.Step.request?) .stalled
    (followed.1, followed.2, after)

/-- A selection runs the action that it is accepted with. -/
lemma runs_of_accept {c : Conversation σ} {s : Selection} {action : Action}
    (accepted : c.accept s = .ok action) : c.Runs s action :=
  ⟨accepted, select_accepted accepted⟩

omit [Surface σ] in
/-- Phase and episode decide what is accepted. -/
lemma accept_congr {c c' : Conversation σ} (phase : c'.phase = c.phase)
    (episode : c'.episode = c.episode) (s : Selection) : c'.accept s = c.accept s := by
  rw [accept, accept, phase, episode]

/-- Running the action of a list of steps executes them. -/
lemma Runs.executes {c : Conversation σ} {s : Selection} {steps : List Parley.Step}
    (runs : c.Runs s (Parley.Step.run steps)) : c.Executes s steps where
  accepted := runs.accepted
  selected npc := by
    rw [runs.selected npc, Npc.acted, Parley.Step.run_eq]

omit [Surface σ] in
/-- A presentation that was collected is the one that was offered, with the items of its kind. -/
lemma collect_some {collections : Collections} {offered : Option Presentation}
    {items : List Item} {action : Item → Action}
    (collected : collect collections offered = .ok (some (items, action))) :
    ∃ p, offered = some p ∧ collections.resolve? p.collection = some items ∧ p.action = action := by
  cases offered with
  | none => cases collected
  | some p =>
    rw [collect] at collected
    cases resolved : collections.resolve? p.collection with
    | none =>
      rw [resolved] at collected
      cases collected
    | some listed =>
      rw [resolved] at collected
      cases collected
      exact ⟨p, rfl, resolved, rfl⟩

/-- The choice at a place of the page is the one at that place of the offer. -/
lemma getElem?_choicesFrom (id : Nat) (choices : List Choice) (i : Nat) :
    (choicesFrom id choices 0)[i]? =
      choices[i]?.map fun choice => (choice.label, ⟨id, i⟩) := by
  rw [choicesFrom, List.getElem?_map, List.getElem?_zipIdx, Option.map_map, Nat.zero_add]
  rfl

variable {c : Conversation σ} {npc : Npc} {key : Key} {node : Node}
  {items : Option (List Item × (Item → Action))}

/-- Where a node is shown, the handle of a choice runs the action of that choice. -/
lemma showing_runs_choice {i : Nat} {choice : Choice}
    (offered : (node.offer npc.speaker).choices[i]? = some choice) :
    (c.showing npc key node items).Runs (.choice ⟨c.episodesStarted + 1, i⟩) choice.action := by
  refine runs_of_accept ?_
  show Episode.accept _ _ = _
  rw [Episode.accept_choice rfl, List.getElem?_map, offered]
  rfl

/-- Where a node is shown, presenting an item that is listed runs the action for that item. -/
lemma showing_runs_present {listed : List Item} {action : Item → Action} {item : Item}
    (presents : items = some (listed, action)) (mem : item ∈ listed) :
    (c.showing npc key node items).Runs (.present ⟨c.episodesStarted + 1⟩ item) (action item) := by
  refine runs_of_accept ?_
  subst presents
  show Episode.accept _ _ = _
  rw [Episode.accept_present rfl]
  exact if_pos mem

/-- The page of a visit, and what each pick from it runs. -/
structure Faithful (collections : Collections) (offer : ChoiceSet) (page : Page)
    (c : Conversation σ) : Prop where
  labels : page.labels = offer.labels
  choice {i s} : page.selectionFor (.choice i) = some s →
    ∃ choice, offer.choices[i]? = some choice ∧ page.labels[i]? = some choice.label ∧
      c.Runs s choice.action
  present {j s} : page.selectionFor (.present j) = some s →
    ∃ p items item, offer.presentation = some p ∧
      collections.resolve? p.collection = some items ∧ items[j]? = some item ∧
      page.items[j]? = some item ∧ c.Runs s (p.action item)

/-- The same for a scripted node in a state of the character. -/
structure FaithfulScript (script : ScriptNode) (state : State) (page : Page)
    (c : Conversation σ) : Prop where
  choice {i s} : page.selectionFor (.choice i) = some s →
    ∃ choice, (script.choices.filter (·.isOffered state))[i]? = some choice ∧
      page.labels[i]? = some choice.label ∧ c.Executes s choice.steps
  present {j s} : page.selectionFor (.present j) = some s →
    ∃ p item, script.present = some p ∧ page.items[j]? = some item ∧
      ((∃ before found after, p.cases = before ++ found :: after ∧ found.item = item ∧
        (∀ other ∈ before, other.item ≠ item) ∧ c.Executes s found.steps) ∨
      ((∀ other ∈ p.cases, other.item ≠ item) ∧ c.Executes s p.otherwise))

/-- A page stays faithful while the same episode is live. -/
lemma Faithful.congr {collections : Collections} {offer : ChoiceSet} {page : Page}
    {c c' : Conversation σ} (faithful : Faithful collections offer page c)
    (phase : c'.phase = c.phase) (episode : c'.episode = c.episode) :
    Faithful collections offer page c' where
  labels := faithful.labels
  choice selected := by
    obtain ⟨choice, offered, labelled, runs⟩ := faithful.choice selected
    exact ⟨choice, offered, labelled,
      runs_of_accept ((accept_congr phase episode _).trans runs.accepted)⟩
  present selected := by
    obtain ⟨p, items, item, offered, resolved, found, listed, runs⟩ := faithful.present selected
    exact ⟨p, items, item, offered, resolved, found, listed,
      runs_of_accept ((accept_congr phase episode _).trans runs.accepted)⟩

/-- A faithful page of a scripted node executes the steps of the script. -/
lemma Faithful.script {collections : Collections} {script : ScriptNode} {speaker : Speaker}
    {page : Page} (faithful : Faithful collections (script.toNode.offer speaker) page c) :
    FaithfulScript script speaker.state page c where
  choice selected := by
    obtain ⟨choice, offered, labelled, runs⟩ := faithful.choice selected
    change ((script.choices.filter _).map _)[_]? = some choice at offered
    rw [List.getElem?_map] at offered
    obtain ⟨written, held, rfl⟩ := Option.map_eq_some_iff.1 offered
    exact ⟨written, held, labelled, runs.executes⟩
  present selected := by
    obtain ⟨_, _, item, offered, _, _, listed, runs⟩ := faithful.present selected
    change script.present.map _ = some _ at offered
    obtain ⟨p, written, rfl⟩ := Option.map_eq_some_iff.1 offered
    refine ⟨p, item, written, listed, ?_⟩
    change c.Runs _ (Parley.Step.run (p.stepsFor item)) at runs
    obtain ⟨before, found, after, split, named, unnamed, steps⟩ | ⟨unnamed, steps⟩ :=
      p.stepsFor_cases item
    · rw [steps] at runs
      exact .inl ⟨before, found, after, split, named, unnamed, runs.executes⟩
    · rw [steps] at runs
      exact .inr ⟨unnamed, runs.executes⟩

variable [LawfulSurface σ]

/-- A node that is shown is shown faithfully. -/
lemma showing_faithful (key : Key)
    (collected : collect c.collections (node.offer npc.speaker).presentation = .ok items) :
    Faithful c.collections (node.offer npc.speaker)
      (Surface.page (c.showing npc key node items).surface) (c.showing npc key node items) := by
  have built : Surface.page (c.showing npc key node items).surface = _ := page_display ..
  have labelled (i : Nat) : (Surface.page (c.showing npc key node items).surface).labels[i]? =
      (node.offer npc.speaker).choices[i]?.map (·.label) := by
    rw [built, Page.labels, List.getElem?_map, getElem?_choicesFrom, Option.map_map]
    rfl
  -- choices go by their place on the page, items by membership in what was collected
  refine ⟨?_, ?_, ?_⟩
  · refine List.ext_getElem? fun i => ?_
    rw [labelled, ChoiceSet.labels, List.getElem?_map]
  · intro i s selected
    rw [built, Page.selectionFor, getElem?_choicesFrom, Option.map_map] at selected
    obtain ⟨choice, offered, rfl⟩ := Option.map_eq_some_iff.1 selected
    refine ⟨choice, offered, ?_, showing_runs_choice offered⟩
    rw [labelled, offered]
    rfl
  · intro j s selected
    rw [built, Page.selectionFor] at selected
    cases items with
    | none => cases selected
    | some listed =>
      obtain ⟨listed, action⟩ := listed
      obtain ⟨item, found, rfl⟩ := Option.map_eq_some_iff.1 selected
      obtain ⟨p, offered, resolved, rfl⟩ := collect_some collected
      refine ⟨p, listed, item, offered, resolved, found, ?_, ?_⟩
      · rw [built]
        exact found
      · exact showing_runs_present rfl (List.mem_of_getElem? found)

/-- After a visit that succeeded, whatever the page offers runs what the node put behind it at that
time, however the state of the character has changed since. The choice at a place of the page has
the label and the action of the choice at that place of the offer, and the item at a place is the
one that the collection listed there. If the node is scripted, then the choices on the page are
those whose guards held, in the order of the script, and they execute their steps; an item executes
the steps of the first case that names it, or else those for all others. -/
theorem shown_runs {c' : Conversation σ} (visited : c.visit npc key = (.ok (), c')) :
    ∃ node, npc.graph.get? key = some node ∧
      Faithful c.collections (node.offer npc.speaker) (Surface.page c'.surface) c' ∧
      ∀ script : ScriptNode, node = script.toNode →
        FaithfulScript script npc.state (Surface.page c'.surface) c' := by
  have v := c.visit_inv npc key
  rw [visited] at v
  cases v with
  | @shown node items _ found collected =>
    have faithful := showing_faithful key collected
    refine ⟨node, found, faithful, ?_⟩
    rintro script rfl
    exact faithful.script

omit [Surface σ] [LawfulSurface σ] in
/-- At a gate one choice is hidden and two cases name the rope: the only label runs the second
choice of the script, and the rope runs the first case. -/
theorem shown_runs_gate :
    let gate : Key := ⟨"gate"⟩
    let rope : Item := ⟨"rope"⟩
    let pass : List Parley.Step := [.increment "passed" 1, .resume]
    let script : ScriptNode := ⟨.line "Well?",
      [⟨"Wave", some ⟨"met", .bool true⟩, [.resume]⟩, ⟨"Knock", none, pass⟩],
      some ⟨"things", [⟨rope, [.jump gate]⟩, ⟨rope, []⟩], []⟩⟩
    let guard : Npc := ⟨"guard", .empty, Graph.empty.insert gate script.toNode⟩
    let c := create Terminal.blank (Collections.empty.register "things" [rope]) (.ofSeed 0)
    let after := (c.visit guard gate).2
    c.visit guard gate = (.ok (), after) ∧ after.Executes (.choice ⟨1, 0⟩) pass ∧
      after.Executes (.present ⟨1⟩ rope) [.jump gate] := by
  intro gate rope pass script guard c after
  have visited : c.visit guard gate = (.ok (), after) := rfl
  obtain ⟨node, found, _, faithful⟩ := shown_runs visited
  have scripted : node = script.toNode :=
    Option.some.inj (found.symm.trans (Dictionary.get?_insert_self ..))
  have faithful := faithful script scripted
  obtain ⟨choice, listed, _, executes⟩ := faithful.choice (i := 0) (s := .choice ⟨1, 0⟩) rfl
  cases listed
  obtain ⟨p, item, presents, listed, which⟩ :=
    faithful.present (j := 0) (s := .present ⟨1⟩ rope) rfl
  cases presents
  cases listed
  refine ⟨visited, executes, ?_⟩
  obtain ⟨before, found, _, split, _, unnamed, executes⟩ | ⟨unnamed, _⟩ := which
  · cases before with
    | nil =>
      cases split
      exact executes
    | cons first _ =>
      obtain ⟨rfl, _⟩ := List.cons.inj split
      exact absurd rfl (unnamed _ List.mem_cons_self)
  · exact absurd rfl (unnamed _ List.mem_cons_self)

end Parley.Conversation
