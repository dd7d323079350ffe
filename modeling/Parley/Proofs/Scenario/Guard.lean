import Parley.Proofs.Dialogue.Counter
import Parley.Proofs.Json.Number
import Parley.Proofs.Scenario.Script

/-!
# Guarded choices

A choice behind a guard is rendered while its variable has the value that the guard asks for
(`ScriptNode.renders_iff`). Additions write their integers in the form in which the integers of
scenario files are read, whatever their signs, so that guards see what counters come to
(`guards_see_variables`).
-/

namespace Parley

/-! ## Equality of values -/

namespace Json

/-- Every number equals itself. -/
lemma Number.same_self (n : Number) : n.same n = true := by
  cases n with
  | int i => exact beq_self_eq_true i
  | float x =>
    rw [same, Binary64.same, beq_self_eq_true, Bool.true_or]

namespace Value

mutual

/-- Every value equals itself. -/
lemma same_self : (v : Value) → v.same v = true
  | .null => by rw [same]
  | .bool b => by rw [same, beq_self_eq_true]
  | .number n => by rw [same, n.same_self]
  | .string s => by rw [same, beq_self_eq_true]
  | .array items => by rw [same, sameItems_self items]
  | .object members => by rw [same, sameMembers_self members]

/-- Every list of values equals itself. -/
lemma sameItems_self : (items : List Value) → sameItems items items = true
  | [] => by rw [sameItems]
  | x :: xs => by rw [sameItems, same_self x, sameItems_self xs, Bool.and_self]

/-- Every list of members equals itself. -/
lemma sameMembers_self : (members : List (String × Value)) → sameMembers members members = true
  | [] => by rw [sameMembers]
  | (name, x) :: rest => by
    rw [sameMembers, beq_self_eq_true, same_self x, sameMembers_self rest, Bool.and_self,
      Bool.and_self]

end

/-- Only nothing equals nothing. -/
lemma same_null {v : Value} : v.same .null = true ↔ v = .null := by
  cases v <;> simp [same]

/-- Whatever an integer is read as equals a counter if and only if the integer does. -/
lemma Written.same_ofInt {m i : Int} {v : Value} (written : Written m v)
    (fits : Decimal.isSigned i = true) : (ofInt i).same v = true ↔ m = i := by
  rw [State.isSigned_iff] at fits
  obtain ⟨_, _, rfl⟩ | ⟨beyond, x, rfl⟩ := written.inv
  · rw [ofInt, ofInt, same, Number.same, beq_iff_eq]
    exact eq_comm
  · have differs : m ≠ i := by
      have word : Decimal.maxSigned < Decimal.wordBound := by decide
      omega
    have unequal : (Number.int i).same (.float x) = false := rfl
    rw [ofInt, same, unequal]
    exact ⟨nofun, fun equal => absurd equal differs⟩

end Value

end Json

/-! ## Counters of scenario files -/

namespace State

variable {s : State} {key : String} {v : Int}

/-- The integer that a scenario file gives a counter at first: the one that is written there, or
zero when none is. -/
inductive Begins (s : State) (key : String) : Int → Prop where
  | missing :
    s.get? key = none →
    Begins s key 0
  | written {v : Int} {value : Json.Value} :
    s.get? key = some value →
    value.Written v →
    Begins s key v

/-- An integer of a scenario file that fits is what its counter counts from. -/
lemma Begins.counts (begins : s.Begins key v) (fits : Decimal.isSigned v = true) :
    s.Counts key v := by
  rw [isSigned_iff] at fits
  cases begins with
  | missing nothing =>
    refine .without fun v held => ?_
    rw [nothing] at held
    cases held
  | written held written =>
    obtain ⟨_, _, rfl⟩ | ⟨beyond, _⟩ := written.inv
    · exact .holds held
    · have word : Decimal.maxSigned < Decimal.wordBound := by decide
      omega

/-- As long as the counter stays in the range of the signed integers, additions are exact. -/
lemma Counts.get?_incrementAll (counts : s.Counts key v) {amounts : List Int} (added : amounts ≠ [])
    (fits : ∀ k, Decimal.isSigned (v + (amounts.take k).sum) = true) :
    (s.incrementAll key amounts).get? key = some (.ofInt (v + amounts.sum)) := by
  -- each amount moves into the value that the counter has for the rest
  induction amounts generalizing s v with
  | nil => exact absurd rfl added
  | cons amount rest ih =>
    have first := fits 0
    have next := fits 1
    rw [List.take_zero, List.sum_nil, Int.add_zero] at first
    rw [List.take_succ_cons, List.take_zero, List.sum_singleton] at next
    have exact : s.incremented key amount = v + amount :=
      (counts.incremented first amount).trans (clampSigned_of_isSigned next)
    have counts := counts_increment s key amount
    rw [exact] at counts
    change ((s.increment key amount).incrementAll key rest).get? key = _
    rw [List.sum_cons, ← Int.add_assoc]
    cases rest with
    | nil =>
      rw [List.sum_nil, Int.add_zero, ← exact]
      exact get?_increment_self ..
    | cons other rest =>
      refine ih counts (List.cons_ne_nil _ _) fun k => ?_
      have later := fits (k + 1)
      rwa [List.take_succ_cons, List.sum_cons, ← Int.add_assoc] at later

/-- A list of increments adds its amounts one after the other. -/
lemma run_increments (s : State) (key : String) (amounts : List Int) :
    (Step.run (amounts.map (.increment key)) s).1 = s.incrementAll key amounts := by
  rw [Step.run_eq, List.foldl_map]
  rfl

end State

/-! ## Rendered choices -/

namespace ScriptNode

/-- The options that a list of choices makes in a state. -/
def options (choices : List ScriptChoice) (s : State) : List Choice :=
  (choices.filter (·.isOffered s)).map fun c => ⟨c.label, Step.run c.steps⟩

/-- The choice at a place of a node is rendered in a state: its option stands between those of the
choices before it and those of the choices behind it. -/
structure Renders (n : ScriptNode) (s : State) (i : Nat) (c : ScriptChoice) : Prop where
  placed : n.choices[i]? = some c
  listed : (n.choiceSet s).choices =
    options (n.choices.take i) s ++ ⟨c.label, Step.run c.steps⟩ :: options (n.choices.drop (i + 1)) s

variable {n : ScriptNode} {i : Nat} {c : ScriptChoice} {g : Guard}

/-- A choice of a node adds its option, if it is offered, to those before and behind it. -/
lemma choices_eq (placed : n.choices[i]? = some c) (s : State) :
    (n.choiceSet s).choices = options (n.choices.take i) s ++
      (if c.isOffered s then [⟨c.label, Step.run c.steps⟩] else []) ++
        options (n.choices.drop (i + 1)) s := by
  obtain ⟨short, rfl⟩ := List.getElem?_eq_some_iff.1 placed
  have split : n.choices = n.choices.take i ++ n.choices[i] :: n.choices.drop (i + 1) := by
    rw [← List.drop_eq_getElem_cons short, List.take_append_drop]
  show options n.choices s = _
  conv => lhs; rw [split]
  rw [options, List.filter_append, List.map_append, List.filter_cons, List.append_assoc]
  split
  · rfl
  · rfl

/-- A choice is rendered if and only if its guard, if it has one, holds. -/
lemma renders_iff (placed : n.choices[i]? = some c) (s : State) :
    n.Renders s i c ↔ c.isOffered s = true := by
  constructor
  · rintro ⟨_, listed⟩
    by_contra hidden
    rw [choices_eq placed, if_neg hidden] at listed
    have longer := congrArg List.length listed
    rw [List.append_nil, List.length_append, List.length_append, List.length_cons] at longer
    omega
  · intro offered
    refine ⟨placed, ?_⟩
    rw [choices_eq placed, if_pos offered, List.append_assoc]
    rfl

/-- What the guard of a choice sees of its variable. -/
structure Sees (n : ScriptNode) (i : Nat) (c : ScriptChoice) (g : Guard) (s : State) : Prop where
  /-- After additions with which the counter stays in range, from its first value on, the choice is
  rendered if and only if the integer that its guard asks for is the one the counter came to. -/
  counted {v m : Int} {amounts : List Int} : s.Begins g.key v → g.equals.Written m →
    amounts ≠ [] → (∀ k, Decimal.isSigned (v + (amounts.take k).sum) = true) →
    (n.Renders (Step.run (amounts.map (.increment g.key)) s).1 i c ↔ m = v + amounts.sum)
  /-- It is rendered right after the variable was set to the value that its guard asks for. -/
  assigned (steps : List Step) : n.Renders (Step.run (steps ++ [.set g.key g.equals]) s).1 i c
  /-- A guard that asks for null is satisfied by a missing variable, and by no other value. -/
  missing : g.equals = .null →
    (n.Renders s i c ↔ s.get? g.key = none ∨ s.get? g.key = some .null)

/-- Guards see what becomes of variables. A guard that asks for an integer, as it is read from a
scenario file, is satisfied by the counter that came to this integer and by no other one, whatever
their signs. Whatever value a variable is set to, a guard that asks for it is satisfied next, and
one that asks for null is satisfied exactly while the variable is missing or null. -/
theorem guards_see_variables (placed : n.choices[i]? = some c) (guarded : c.guard = some g)
    (s : State) : n.Sees i c g s := by
  have offered (s : State) : n.Renders s i c ↔ ((s.get? g.key).getD .null).same g.equals = true := by
    rw [renders_iff placed, ScriptChoice.isOffered, guarded]
    rfl
  refine ⟨?_, ?_, ?_⟩
  · intro v m amounts begins written added fits
    have first := fits 0
    rw [List.take_zero, List.sum_nil, Int.add_zero] at first
    have total := fits amounts.length
    rw [List.take_length] at total
    rw [offered, State.run_increments, (begins.counts first).get?_incrementAll added fits,
      Option.getD_some, written.same_ofInt total]
  · intro steps
    rw [offered, Step.run_eq, List.foldl_concat, Step.apply, State.get?_set_self, Option.getD_some]
    exact g.equals.same_self
  · intro null
    rw [offered, null, Json.Value.same_null]
    cases s.get? g.key with
    | none => exact ⟨fun _ => .inl rfl, fun _ => rfl⟩
    | some value =>
      rw [Option.getD_some, Option.some_inj]
      exact ⟨.inr, fun isNull => isNull.resolve_left nofun⟩

/-- A dive from two metres above the water to three below it: the way up is rendered there, and
not one metre higher. -/
theorem guards_see_variables_pool :
    let up : ScriptChoice := ⟨"Up", some ⟨"height", .ofInt (-3)⟩, [.resume]⟩
    let pool : ScriptNode := ⟨.line "Cold.", [⟨"Wait", none, []⟩, up], none⟩
    let s := State.empty.set "height" (.ofInt 2)
    let dive (amounts : List Int) := (Step.run (amounts.map (.increment "height")) s).1
    pool.Renders (dive [-9, 4]) 1 up ∧ ¬ pool.Renders (dive [-9, 5]) 1 up ∧
      pool.Renders (Step.run [.resume, .set "height" (.ofInt (-3))] s).1 1 up := by
  intro up pool s dive
  have sees : pool.Sees 1 up ⟨"height", .ofInt (-3)⟩ s := guards_see_variables rfl rfl s
  have begins : s.Begins "height" 2 :=
    .written (State.get?_set_self ..) (Json.Value.written_ofInt (by decide) (by decide))
  have asked : (Json.Value.ofInt (-3)).Written (-3) :=
    Json.Value.written_ofInt (by decide) (by decide)
  have fits (amount : Int) (small : 0 ≤ amount ∧ amount ≤ 5) (k : Nat) :
      Decimal.isSigned (2 + ([-9, amount].take k).sum) = true := by
    rw [State.isSigned_iff, Decimal.minSigned, Decimal.maxSigned]
    rcases k with _ | _ | k
    · simp
    · simp
    · simp
      omega
  refine ⟨?_, ?_, ?_⟩
  · exact (sees.counted begins asked (List.cons_ne_nil _ _) (fits 4 (by decide))).2 (by decide)
  · intro shown
    have above := (sees.counted begins asked (List.cons_ne_nil _ _) (fits 5 (by decide))).1 shown
    exact absurd above (by decide)
  · exact sees.assigned [.resume]

end ScriptNode

end Parley
