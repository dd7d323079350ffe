import Parley.Proofs.Modal.Journal

/-!
# The discipline of a stack

Whatever its layers are, and however often they interrupt one another, a stack calls the layer on
top and no other. What the journal of observed layers tells is therefore always about a layer that
stands at that time (`Stands`), and the layers that stand are those on the stack (`Kept`). Layers
that stay beneath the top are left alone for as long as that lasts (`Kept.beneath`).
-/

namespace Parley.LayerStack

variable {L C ε : Type}

/-- The layer was put on the stack, and nothing in the journal has removed it. -/
def Stands (journal : List (Entry ε)) (number : Nat) : Prop :=
  (∃ entry, journal[number]? = some entry ∧ entry.places = true) ∧
    ∀ entry ∈ journal, entry.number? = some number → entry.removes = false

/-- What one more entry makes the journal tell. -/
lemma told_concat {journal : List (Entry ε)} {entry e : Entry ε} {i : Nat}
    (told : (journal ++ [entry])[i]? = some e) :
    (i < journal.length ∧ journal[i]? = some e) ∨ (i = journal.length ∧ entry = e) := by
  have inside := (List.getElem?_eq_some_iff.1 told).1
  rw [List.length_append, List.length_singleton, Nat.lt_succ_iff] at inside
  obtain inside | rfl := Nat.lt_or_eq_of_le inside
  · rw [List.getElem?_append_left inside] at told
    exact .inl ⟨inside, told⟩
  · rw [List.getElem?_concat_length] at told
    exact .inr ⟨rfl, Option.some.inj told⟩

/-- A layer that stands was placed by an entry of the journal. -/
lemma Stands.lt {journal : List (Entry ε)} {number : Nat} (stands : Stands journal number) :
    number < journal.length := by
  obtain ⟨⟨entry, told, _⟩, _⟩ := stands
  exact (List.getElem?_eq_some_iff.1 told).1

/-- One more entry, if it is about a layer that was placed before, adds the layer that it places and
takes away the one that it removes. -/
lemma stands_concat {journal : List (Entry ε)} {entry : Entry ε} {number : Nat}
    (earlier : ∀ e ∈ journal ++ [entry], ∀ n, e.number? = some n → n < journal.length) :
    Stands (journal ++ [entry]) number ↔
      (entry.places = true ∧ number = journal.length) ∨
        (Stands journal number ∧ ¬ (entry.number? = some number ∧ entry.removes = true)) := by
  constructor
  · rintro ⟨⟨placing, told, places⟩, kept⟩
    obtain ⟨_, told⟩ | ⟨rfl, rfl⟩ := told_concat told
    · refine .inr ⟨⟨⟨placing, told, places⟩, fun e mem => kept e (List.mem_append_left _ mem)⟩, ?_⟩
      rintro ⟨about, removes⟩
      rw [kept entry (by simp) about] at removes
      cases removes
    · exact .inl ⟨places, rfl⟩
  · rintro (⟨places, rfl⟩ | ⟨⟨⟨placing, told, places⟩, kept⟩, spared⟩)
    · refine ⟨⟨entry, List.getElem?_concat_length, places⟩, fun e mem about => ?_⟩
      exact absurd (earlier e mem _ about) (Nat.lt_irrefl _)
    · refine ⟨⟨placing, ?_, places⟩, fun e mem about => ?_⟩
      · rw [List.getElem?_append_left (List.getElem?_eq_some_iff.1 told).1, told]
      · obtain mem | mem := List.mem_append.1 mem
        · exact kept e mem about
        · cases List.mem_singleton.1 mem
          exact Bool.eq_false_iff.2 fun removes => spared ⟨about, removes⟩

/-! ## One move -/

section

variable {now : Nat} {above above' : List (Placed L)} {entry : Entry ε}

/-- An entry is about the layer on top. -/
lemma Moves.number?_eq_some (moves : Moves now above entry above') (n : Nat) :
    entry.number? = some n ↔ n ∈ above.map Placed.number := by
  cases moves <;> simp [Entry.number?, eq_comm]

/-- A move leaves the layers that it does not remove, and the one that it places. -/
lemma Moves.mem_numbers (moves : Moves now above entry above') (n : Nat) :
    n ∈ above'.map Placed.number ↔
      (entry.places = true ∧ n = now) ∨
        (n ∈ above.map Placed.number ∧ entry.removes = false) := by
  cases moves <;> simp [Entry.places, Entry.removes]

/-- A layer that a move places is newer than those below it. -/
lemma Moves.ordered (moves : Moves now above entry above')
    (older : ∀ n ∈ above.map Placed.number, n < now) :
    (above'.map Placed.number).Pairwise (· > ·) := by
  cases moves with
  | pushed top layer event next => simpa using older
  | _ => simp

/-- A move adds a layer if it places one, and takes one away if it removes one. -/
lemma Moves.length (moves : Moves now above entry above') :
    above'.length + [entry].countP Entry.removes = above.length + [entry].countP Entry.places := by
  cases moves <;> rfl

/-- A move works on one layer at most. -/
lemma Moves.length_le (moves : Moves now above entry above') : above.length ≤ 1 := by
  cases moves <;> simp

end

/-! ## Every run -/

/-- What holds of observed layers at any time. -/
structure Kept (s : Stage (Placed L) (Observed C ε)) : Prop where
  /-- The lower a layer, the earlier it was placed. -/
  ordered : s.numbers.Pairwise (· > ·)
  standing (n : Nat) : n ∈ s.numbers ↔ Stands s.journal n
  /-- An entry is about a layer that stood when it was taken down. -/
  about {i n : Nat} {entry : Entry ε} : s.journal[i]? = some entry →
    entry.number? = some n → Stands (s.journal.take i) n
  counts : s.stack.depth + s.journal.countP Entry.removes = s.journal.countP Entry.places

section

variable {s s' : Stage (Placed L) (Observed C ε)} {above above' below : List (Placed L)}
  {entry : Entry ε}

/-- Every layer was placed before now. -/
lemma Kept.lt (kept : Kept s) {n : Nat} (mem : n ∈ s.numbers) : n < s.journal.length :=
  ((kept.standing n).1 mem).lt

/-- Every entry is about a layer that was placed before. -/
lemma Kept.earlier (kept : Kept s) {e : Entry ε} (mem : e ∈ s.journal) {n : Nat}
    (about : e.number? = some n) : n < s.journal.length := by
  obtain ⟨i, told⟩ := List.mem_iff_getElem?.1 mem
  exact Nat.lt_of_lt_of_le (kept.about told about).lt (List.length_take_le' _ _)

/-- Journal and stack stay in agreement over a move on top with its entry. -/
lemma Kept.moves (kept : Kept s) (moves : Moves s.journal.length above entry above')
    (layers : s.stack.layers = above ++ below) (layers' : s'.stack.layers = above' ++ below)
    (journal : s'.journal = s.journal ++ [entry]) : Kept s' := by
  have numbers : s.numbers = above.map Placed.number ++ below.map Placed.number := by
    rw [Stage.numbers, layers, List.map_append]
  have numbers' : s'.numbers = above'.map Placed.number ++ below.map Placed.number := by
    rw [Stage.numbers, layers', List.map_append]
  obtain ⟨_, lower, apart⟩ := List.pairwise_append.1 (numbers ▸ kept.ordered)
  have older (n : Nat) (mem : n ∈ above.map Placed.number) : n < s.journal.length :=
    kept.lt (numbers ▸ List.mem_append_left _ mem)
  exact {
    ordered := by
      rw [numbers']
      refine List.pairwise_append.2 ⟨moves.ordered older, lower, fun m mem n mem' => ?_⟩
      obtain ⟨_, rfl⟩ | ⟨mem, _⟩ := (moves.mem_numbers m).1 mem
      · exact kept.lt (numbers ▸ List.mem_append_right _ mem')
      · exact apart m mem n mem'
    standing := fun n => by
      have earlier (e : Entry ε) (mem : e ∈ s.journal ++ [entry]) (n : Nat)
          (about : e.number? = some n) : n < s.journal.length := by
        obtain mem | mem := List.mem_append.1 mem
        · exact kept.earlier mem about
        · cases List.mem_singleton.1 mem
          exact older n ((moves.number?_eq_some n).1 about)
      have disjoint : n ∈ above.map Placed.number → n ∉ below.map Placed.number :=
        fun mem mem' => Nat.lt_irrefl n (apart n mem n mem')
      rw [numbers', List.mem_append, moves.mem_numbers, journal, stands_concat earlier,
        ← kept.standing, numbers, List.mem_append, moves.number?_eq_some, ← Bool.not_eq_true]
      tauto
    about := fun {i n e} told about => by
      rw [journal] at told ⊢
      obtain ⟨inside, told⟩ | ⟨rfl, rfl⟩ := told_concat told
      · rw [List.take_append_of_le_length (Nat.le_of_lt inside)]
        exact kept.about told about
      · rw [List.take_left, ← kept.standing, numbers]
        exact List.mem_append_left _ ((moves.number?_eq_some n).1 about)
    counts := by
      have counts := kept.counts
      have length := moves.length
      rw [depth, layers, List.length_append] at counts
      rw [depth, layers', journal, List.countP_append, List.countP_append, List.length_append]
      omega }

/-- What leaves the stack is not heard of again. -/
lemma Kept.gone (kept : Kept s) {i j n : Nat} {e e' : Entry ε} (later : i < j)
    (told : s.journal[i]? = some e) (about : e.number? = some n) (removes : e.removes = true)
    (told' : s.journal[j]? = some e') : e'.number? ≠ some n := by
  intro about'
  obtain ⟨_, stays⟩ := kept.about told' about'
  have mem : e ∈ s.journal.take j := by
    refine List.mem_of_getElem? (i := i) ?_
    rw [List.getElem?_take_of_lt later, told]
  rw [stays e mem about] at removes
  cases removes

/-- Between two moments the layers `below` stayed where they were, and as they were, and no entry
is about one of them. -/
structure Spared (below : List (Placed L)) (s s' : Stage (Placed L) (Observed C ε)) : Prop where
  layers : ∃ above, s'.stack.layers = above ++ below
  journal : ∃ since, s'.journal = s.journal ++ since ∧
    ∀ entry ∈ since, ∀ p ∈ below, entry.number? ≠ some p.number

/-- What is spared by one stretch and by the next is spared by both together. -/
lemma Spared.trans {s'' : Stage (Placed L) (Observed C ε)} (first : Spared below s s')
    (second : Spared below s' s'') : Spared below s s'' := by
  obtain ⟨_, since, journal, others⟩ := first
  obtain ⟨layers, since', journal', others'⟩ := second
  refine ⟨layers, since ++ since', ?_, fun entry mem => ?_⟩
  · rw [journal', journal, List.append_assoc]
  · obtain mem | mem := List.mem_append.1 mem
    · exact others entry mem
    · exact others' entry mem

variable [Layer L C ε]

/-- Journal and stack stay in agreement over every operation. -/
lemma Kept.observe (kept : Kept s) (op : Operation L) : Kept (op.observe s) := by
  obtain same | ⟨_, _, _, _, moves, layers, layers', journal⟩ := observe_inv s op
  · rwa [same]
  · exact kept.moves moves layers layers' journal

/-- Journal and stack agree after any operations. -/
lemma kept_observed (context : C) (ops : List (Operation L)) : Kept (observed context ops) := by
  induction ops using List.reverseRecOn with
  | nil => exact ⟨.nil, by simp [observed, empty, Stage.numbers, Stage.journal, Stands], nofun, rfl⟩
  | append_singleton ops op ih =>
    rw [observed_concat]
    exact ih.observe op

/-- An operation that starts with other layers on top spares those below. -/
lemma Kept.spared (kept : Kept s) {op : Operation L} (layers : s.stack.layers = above ++ below)
    (starts : (∃ layer, op = .push layer) ∨ below.length < s.stack.depth) :
    Spared below s (op.observe s) := by
  obtain ⟨layer, rfl⟩ | starts := starts
  · refine ⟨⟨⟨_, layer⟩ :: above, congrArg (List.cons _) layers⟩, [.placed], rfl, ?_⟩
    intro entry mem p _
    cases List.mem_singleton.1 mem
    nofun
  obtain same | ⟨entry, top, top', rest, moves, split, layers', journal⟩ := observe_inv s op
  · rw [same]
    exact ⟨⟨above, layers⟩, [], (List.append_nil _).symm, nofun⟩
  -- the layers that the operation works on are above those that have to stay
  obtain ⟨mid, rest_eq⟩ : ∃ mid, rest = mid ++ below := by
    have short := moves.length_le
    have lengths := congrArg List.length layers
    rw [List.length_append] at lengths
    rw [depth, lengths] at starts
    rw [layers] at split
    obtain ⟨mid, rfl, below_eq⟩ | ⟨mid, _, rest_eq⟩ := List.append_eq_append_iff.1 split
    · rw [List.length_append] at short
      obtain rfl : mid = [] := List.eq_nil_of_length_eq_zero (by omega)
      exact ⟨[], below_eq.symm⟩
    · exact ⟨mid, rest_eq⟩
  refine ⟨⟨top' ++ mid, by rw [layers', rest_eq, List.append_assoc]⟩, [entry], journal, ?_⟩
  intro e mem p below_mem about
  cases List.mem_singleton.1 mem
  have ordered := kept.ordered
  rw [Stage.numbers, split, rest_eq, List.map_append, List.map_append] at ordered
  have apart := (List.pairwise_append.1 ordered).2.2 p.number ((moves.number?_eq_some _).1 about)
    p.number (List.mem_append_right _ (List.mem_map_of_mem below_mem))
  exact Nat.lt_irrefl _ apart

end

/-! ## The discipline -/

/-- How many layers more there are after what the top layer answered. -/
def gain : Except ε (Flow Unit) → Int
  | .ok (.push _) => 1
  | .ok .pop | .error _ => -1
  | .ok .stay | .ok (.replace _) | .ok .quit => 0

/-- A call changes the number of layers by what its answer gains. -/
lemma Moves.gain {now number : Nat} {event : InputEvent} {answer : Except ε (Flow Unit)}
    {above above' : List (Placed L)} (moves : Moves now above (.called number event answer) above') :
    (above'.length : Int) = above.length + gain answer := by
  cases moves <;> rfl

/-- What can be relied on whatever layers are put on a stack and whatever they answer. -/
structure Disciplined (L : Type) [Layer L C ε] (context : C) : Prop where
  /-- The layers do what they do when nobody observes them. -/
  unnoticed (ops : List (Operation L)) : (observed context ops).plain = run context ops
  /-- Without layers nothing is called. -/
  unheard (ops : List (Operation L)) (event : InputEvent) : (run context ops).stack.layers = [] →
    ((run context ops).stack.dispatch (run context ops).context event).1 = .ok .unhandled ∧
      observed context (ops ++ [.dispatch event]) = observed context ops
  /-- The layer on top is called once, and no other; its answer tells how the depth changes. -/
  called (ops : List (Operation L)) (event : InputEvent) {top : Placed L}
      {below : List (Placed L)} : (observed context ops).stack.layers = top :: below →
    (observed context (ops ++ [.dispatch event])).journal = (observed context ops).journal ++
      [.called top.number event (top.answer (run context ops).context event)] ∧
    ((run context (ops ++ [.dispatch event])).stack.depth : Int) =
      (run context ops).stack.depth + gain (top.answer (run context ops).context event) ∧
    ((run context ops).stack.dispatch (run context ops).context event).1 ≠ .ok .unhandled
  /-- On the stack are the layers that were put there and not removed since, each under a number of
  its own, and while they are there they are called, drawn and removed. -/
  kept (ops : List (Operation L)) : Kept (observed context ops)
  /-- A layer that was removed is not called again; it would get another number first. -/
  gone (ops : List (Operation L)) {i j n : Nat} {e e' : Entry ε} : i < j →
    (observed context ops).journal[i]? = some e → e.number? = some n → e.removes = true →
    (observed context ops).journal[j]? = some e' → e'.number? ≠ some n
  /-- As long as all but the pushes start above some layers, these are left alone. -/
  spared (ops later : List (Operation L)) {above below : List (Placed L)} :
    (observed context ops).stack.layers = above ++ below →
    (∀ before op after, later = before ++ op :: after →
      (∃ layer, op = .push layer) ∨
        below.length < (run context (ops ++ before)).stack.depth) →
    Spared below (observed context ops) (observed context (ops ++ later))
  /-- The host waits as long as more layers were put on the stack than were removed. -/
  locked (ops : List (Operation L)) : (run context ops).stack.isLocked = true ↔
    (observed context ops).journal.countP Entry.removes <
      (observed context ops).journal.countP Entry.places

section

variable [Layer L C ε] (context : C)

/-- Watching a stack does not change its depth. -/
lemma depth_observed (ops : List (Operation L)) :
    (observed context ops).stack.depth = (run context ops).stack.depth := by
  rw [← plain_observed, Stage.depth_plain]

/-- An event goes to the top layer alone, and the depth changes by what that answers. -/
lemma called_observed {ops : List (Operation L)} {top : Placed L} {below : List (Placed L)}
    (layers : (observed context ops).stack.layers = top :: below) (event : InputEvent) :
    (observed context (ops ++ [.dispatch event])).journal = (observed context ops).journal ++
      [.called top.number event (top.answer (run context ops).context event)] ∧
    ((run context (ops ++ [.dispatch event])).stack.depth : Int) =
      (run context ops).stack.depth + gain (top.answer (run context ops).context event) ∧
    ((run context ops).stack.dispatch (run context ops).context event).1 ≠ .ok .unhandled := by
  obtain ⟨above, moves, layers', journal, handled⟩ := dispatch_inv layers event
  rw [(dispatch_plain _ event).1] at handled
  rw [← depth_observed, ← depth_observed, observed_concat, ← plain_observed]
  refine ⟨journal, ?_, handled⟩
  have length := moves.gain
  rw [depth, depth, layers, layers', List.length_append]
  show ((above.length + below.length : Nat) : Int) =
    (below.length + 1 : Nat) + gain (top.answer (observed context ops).context.context event)
  rw [List.length_singleton] at length
  omega

/-- Without layers an event is not handled, and nothing is called. -/
lemma unheard_observed {ops : List (Operation L)} (layers : (run context ops).stack.layers = [])
    (event : InputEvent) :
    ((run context ops).stack.dispatch (run context ops).context event).1 = .ok .unhandled ∧
      observed context (ops ++ [.dispatch event]) = observed context ops := by
  rw [observed_concat]
  rw [← plain_observed] at layers ⊢
  generalize observed context ops = s at layers ⊢
  obtain ⟨⟨_ | ⟨top, below⟩⟩, context⟩ := s
  · exact ⟨rfl, rfl⟩
  · cases layers

/-- Layers are spared as long as every operation is a push or starts with other layers on top of
them. -/
lemma spared_observed (ops later : List (Operation L)) {above below : List (Placed L)}
    (layers : (observed context ops).stack.layers = above ++ below)
    (starts : ∀ before op after, later = before ++ op :: after →
      (∃ layer, op = .push layer) ∨
        below.length < (run context (ops ++ before)).stack.depth) :
    Spared below (observed context ops) (observed context (ops ++ later)) := by
  induction later using List.reverseRecOn with
  | nil =>
    rw [List.append_nil]
    exact ⟨⟨above, layers⟩, [], (List.append_nil _).symm, nofun⟩
  | append_singleton later op ih =>
    have first := ih fun before op' after split =>
      starts before op' (after ++ [op]) (by rw [split, List.append_assoc, List.cons_append])
    obtain ⟨above', layers'⟩ := first.layers
    rw [← List.append_assoc, observed_concat]
    refine first.trans ((kept_observed context (ops ++ later)).spared layers' ?_)
    rw [depth_observed]
    exact starts later op [] rfl

/-- The stack is locked as long as more layers were placed than removed. -/
lemma locked_observed (ops : List (Operation L)) :
    (run context ops).stack.isLocked = true ↔
      (observed context ops).journal.countP Entry.removes <
        (observed context ops).journal.countP Entry.places := by
  have counts := (kept_observed context ops).counts
  rw [depth_observed, depth] at counts
  rw [isLocked, isEmpty, Bool.not_eq_true', List.isEmpty_eq_false_iff, ← List.length_pos_iff]
  omega

/-- A stack of any layers keeps its discipline, from the start on and for as long as it is used. -/
theorem stack_disciplined : Disciplined L context where
  unnoticed := plain_observed context
  unheard _ event layers := unheard_observed context layers event
  called _ event _ _ layers := called_observed context layers event
  kept := kept_observed context
  gone ops _ _ _ _ _ := (kept_observed context ops).gone
  spared ops later _ _ := spared_observed context ops later
  locked := locked_observed context

end

end Parley.LayerStack
