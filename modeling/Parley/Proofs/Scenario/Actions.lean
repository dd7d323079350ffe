import Parley.Proofs.Dialogue.Counter
import Parley.Proofs.Scenario.Script

/-!
# State and moves of scripted actions

The steps of a scripted action are changes of the state and requests to move (`Step.isMove`), in any
order. The action takes them apart (`Splits`): what it requests are its moves, in order and whatever
the state; what it does to the state are its changes, in order and whatever moves stand between
them. A variable has in the end the value that it was given last, and what was added since.
-/

namespace Parley

namespace Step

/-- Whether a step is a request to move. -/
def isMove : Step → Bool
  | .restart _ | .resume | .jump _ => true
  | .set _ _ | .increment _ _ => false

/-- The step that makes a request. -/
def ofRequest : Navigation → Step
  | .restart key => .restart key
  | .resume => .resume
  | .jump key => .jump key

/-- The step gives the variable a value. -/
def Gives (key : String) (step : Step) : Prop := ∃ value, step = .set key value

/-- The step gives the variable a value or adds to it. -/
def Names (key : String) (step : Step) : Prop :=
  step.Gives key ∨ ∃ amount, step = .increment key amount

/-- What the step adds to the variable, if it does. -/
def amount? (key : String) : Step → Option Int
  | .increment other amount => if other = key then some amount else none
  | _ => none

/-- The requests of steps, taken as steps again, are their moves. -/
lemma map_ofRequest (steps : List Step) :
    (steps.filterMap request?).map ofRequest = steps.filter isMove := by
  induction steps with
  | nil => rfl
  | cons step rest ih =>
    cases step with
    | set _ _ | increment _ _ => exact ih
    | _ => exact congrArg (List.cons _) ih

/-- A step that asks for a move changes no variable. -/
lemma apply_of_isMove {step : Step} (moves : step.isMove = true) (s : State) : step.apply s = s := by
  cases step with
  | set _ _ | increment _ _ => cases moves
  | _ => rfl

/-- Moves between the changes do not matter to the state. -/
lemma foldl_apply_filter (steps : List Step) (s : State) :
    (steps.filter (!·.isMove)).foldl apply s = steps.foldl apply s := by
  induction steps generalizing s with
  | nil => rfl
  | cons step rest ih =>
    cases moves : step.isMove with
    | true => simp [moves, ih, apply_of_isMove moves]
    | false => simp [moves, ih]

/-- A step changes no variable but the one that it names. -/
lemma get?_apply_of_not_names {step : Step} {key : String} (unnamed : ¬ step.Names key)
    (s : State) : (step.apply s).get? key = s.get? key := by
  cases step with
  | set other value =>
    refine State.get?_set_of_ne ?_ value
    rintro rfl
    exact unnamed (.inl ⟨value, rfl⟩)
  | increment other amount =>
    refine State.get?_increment_of_ne ?_ amount
    rintro rfl
    exact unnamed (.inr ⟨amount, rfl⟩)
  | _ => rfl

/-- A variable that no step names keeps its value. -/
lemma get?_foldl_of_not_names {steps : List Step} {key : String}
    (unnamed : ∀ step ∈ steps, ¬ step.Names key) (s : State) :
    (steps.foldl apply s).get? key = s.get? key := by
  induction steps generalizing s with
  | nil => rfl
  | cons step rest ih =>
    obtain ⟨first, others⟩ := List.forall_mem_cons.1 unnamed
    rw [List.foldl_cons, ih others, get?_apply_of_not_names first]

/-- As long as a variable is given no value, it becomes what is added to it. -/
lemma get?_foldl_of_not_gives {steps : List Step} {key : String}
    (kept : ∀ step ∈ steps, ¬ step.Gives key) (s : State) :
    (steps.foldl apply s).get? key =
      (s.incrementAll key (steps.filterMap (amount? key))).get? key := by
  induction steps generalizing s with
  | nil => rfl
  | cons step rest ih =>
    obtain ⟨first, others⟩ := List.forall_mem_cons.1 kept
    rw [List.foldl_cons, ih others]
    by_cases adds : ∃ amount, step = .increment key amount
    · obtain ⟨amount, rfl⟩ := adds
      have counted : (increment key amount).amount? key = some amount := if_pos rfl
      rw [List.filterMap_cons_some counted]
      rfl
    · have unnamed : ¬ step.Names key := not_or.2 ⟨first, adds⟩
      have nothing : step.amount? key = none := by
        cases step with
        | increment other amount =>
          refine if_neg ?_
          rintro rfl
          exact adds ⟨amount, rfl⟩
        | _ => rfl
      rw [List.filterMap_cons_none nothing]
      exact State.get?_incrementAll_congr (get?_apply_of_not_names unnamed s) _

end Step

/-- An action takes a list of steps apart into what it requests and what it does to the state. -/
structure Splits (steps : List Step) (action : Action) : Prop where
  /-- Exactly the moves are requested, in order, whatever the state. -/
  requests (s : State) : (action s).2.map Step.ofRequest = steps.filter Step.isMove
  /-- The changes are made one after the other, whatever moves stand between them. -/
  changes (s : State) : (action s).1 = (steps.filter (!·.isMove)).foldl Step.apply s
  /-- Other moves, in other places, do the same to the state. -/
  moves_apart {other : List Step} :
    other.filter (!·.isMove) = steps.filter (!·.isMove) →
    ∀ s, (Step.run other s).1 = (action s).1
  /-- Other changes, in other places and of another state, request the same. -/
  changes_apart {other : List Step} :
    other.filter Step.isMove = steps.filter Step.isMove →
    ∀ s s', (Step.run other s).2 = (action s').2
  unnamed (s : State) {key : String} : (∀ step ∈ steps, ¬ step.Names key) →
    (action s).1.get? key = s.get? key
  /-- A variable that is given no value becomes what is added to it. -/
  added (s : State) {key : String} : (∀ step ∈ steps, ¬ step.Gives key) →
    (action s).1.get? key =
      (s.incrementAll key (steps.filterMap (Step.amount? key))).get? key
  /-- A variable that is given a value becomes the last of these and what is added later. -/
  given (s : State) {key : String} {value : Json.Value} {before after : List Step} :
    steps = before ++ .set key value :: after → (∀ step ∈ after, ¬ step.Gives key) →
    (action s).1.get? key =
      ((s.set key value).incrementAll key (after.filterMap (Step.amount? key))).get? key

/-- Different requests are asked for by different steps. -/
lemma ofRequest_injective : Function.Injective Step.ofRequest := by
  intro a b same
  cases a <;> cases b <;> cases same <;> rfl

/-- An action splits into its changes of the state and its requests, however they are mixed. -/
lemma run_splits (steps : List Step) : Splits steps (Step.run steps) where
  requests s := by rw [Step.run_eq, Step.map_ofRequest]
  changes s := by rw [Step.run_eq, Step.foldl_apply_filter]
  moves_apart {other} same s := by
    rw [Step.run_eq, Step.run_eq, ← Step.foldl_apply_filter other, same, Step.foldl_apply_filter]
  changes_apart {other} same s s' := by
    rw [Step.run_eq, Step.run_eq]
    refine ofRequest_injective.list_map ?_
    rw [Step.map_ofRequest, Step.map_ofRequest, same]
  unnamed s _ never := by
    rw [Step.run_eq]
    exact Step.get?_foldl_of_not_names never s
  added s _ never := by
    rw [Step.run_eq]
    exact Step.get?_foldl_of_not_gives never s
  given s key value before after split last := by
    rw [Step.run_eq, split, List.foldl_append, List.foldl_cons, Step.get?_foldl_of_not_gives last]
    -- what was done to the variable before it was set is of no account
    refine State.get?_incrementAll_congr ?_ _
    rw [Step.apply, State.get?_set_self, State.get?_set_self]

/-- Every action of a scripted node takes its steps apart: that of a choice the steps of the choice,
and that of an item the steps of the first case that names it, or else those for all others. -/
theorem scripted_actions_split (n : ScriptNode) (shown : State) :
    List.Forall₂ (fun written choice => choice.label = written.label ∧
        Splits written.steps choice.action)
      (n.choices.filter (·.isOffered shown)) (n.choiceSet shown).choices ∧
    Option.Rel (fun written presentation => presentation.collection = written.collection ∧
        ∀ item, ∃ steps, Splits steps (presentation.action item) ∧
          ((∃ before found after, written.cases = before ++ found :: after ∧ found.item = item ∧
            (∀ other ∈ before, other.item ≠ item) ∧ steps = found.steps) ∨
          ((∀ other ∈ written.cases, other.item ≠ item) ∧ steps = written.otherwise)))
      n.present (n.choiceSet shown).presentation := by
  constructor
  · rw [ScriptNode.choiceSet, List.forall₂_map_right_iff]
    exact List.forall₂_same.2 fun written _ => ⟨rfl, run_splits written.steps⟩
  · rw [ScriptNode.choiceSet]
    cases n.present with
    | none => exact .none
    | some written =>
      exact .some ⟨rfl, fun item => ⟨_, run_splits _, written.stepsFor_cases item⟩⟩

end Parley
