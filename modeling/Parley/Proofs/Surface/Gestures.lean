import Parley.Proofs.Surface.Lawful

/-!
# Gestures at a terminal

A number means three things at a terminal: it selects a choice, it holds up an item, or it holds up
another one in its place. `Chooses`, `Picks` and `Confirms` are the ways in which an event is taken
while the choices are up, while the items are listed and while one of them is held up;
`respond_changes` is what all of them come to. After them stand sequences of events: the terminal
after them, and what they get reported.
-/

namespace Parley

/-- The gestures that make a pick at a terminal. -/
def Pick.gestures : Pick → List InputEvent
  | .choice index => [.number (index + 1)]
  | .present index => [.key 'p', .number (index + 1), .confirm]

/-- The event is no number, or a number that no item of the page has. -/
def Page.Unlisted (p : Page) (event : InputEvent) : Prop :=
  ∀ n, event = .number n → n = 0 ∨ p.items.length < n

namespace Terminal

/-! ## How events are taken -/

/-- The ways in which an event is taken while numbers select choices. -/
inductive Chooses (t : Terminal) : InputEvent → Option Selection × Terminal → Prop where
  | chosen {index s} :
    t.page.selectionFor (.choice index) = some s →
    Chooses t (.number (index + 1)) (some s, { t with mode := .spent })
  | opened :
    t.page.present.isSome →
    Chooses t (.key 'p') (none, t.goto .picking)
  | ignored {event} :
    (t.page.present.isSome → event ≠ .key 'p') →
    (∀ index, event = .number (index + 1) → t.page.selectionFor (.choice index) = none) →
    Chooses t event (none, t)

/-- The ways in which an event is taken while numbers hold up items. -/
inductive Picks (t : Terminal) : InputEvent → Option Selection × Terminal → Prop where
  | heldUp {index} :
    index < t.page.items.length →
    Picks t (.number (index + 1)) (none, t.goto (.confirming index))
  | closed :
    Picks t .cancel (none, t.goto .choosing)
  | ignored {event} :
    event ≠ .cancel →
    t.page.Unlisted event →
    Picks t event (none, t)

/-- The ways in which an event is taken while the item at `index` is held up. -/
inductive Confirms (t : Terminal) (index : Nat) :
    InputEvent → Option Selection × Terminal → Prop where
  | presented {s} :
    t.page.selectionFor (.present index) = some s →
    Confirms t index .confirm (some s, { t with mode := .spent })
  | heldUp {other} :
    other < t.page.items.length →
    Confirms t index (.number (other + 1)) (none, t.goto (.confirming other))
  | putDown :
    Confirms t index .cancel (none, t.goto .picking)
  | ignored {event} :
    event ≠ .cancel →
    t.page.Unlisted event →
    (event = .confirm → t.page.selectionFor (.present index) = none) →
    Confirms t index event (none, t)

section

variable {t : Terminal} {index : Nat}

/-- Among the choices, the number of one reports it. -/
lemma respond_choice {s : Selection} (choosing : t.mode = .choosing)
    (offered : t.page.selectionFor (.choice index) = some s) :
    t.respond (.number (index + 1)) = (some s, { t with mode := .spent }) := by
  have positive : 1 ≤ index + 1 := Nat.le_add_left 1 index
  rw [respond_number choosing, if_pos positive, Nat.add_sub_cancel, offered]
  rfl

/-- Among the choices, `p` opens the picker if there is something to present. -/
lemma respond_open (choosing : t.mode = .choosing) (opens : t.page.present.isSome) :
    t.respond (.key 'p') = (none, t.goto .picking) := by
  rw [respond_key choosing, if_pos ⟨rfl, opens⟩]

/-- A number holds up the item that has it, or it is no number of the list. -/
lemma holdUp_cases (t : Terminal) (n : Nat) :
    (∃ index, n = index + 1 ∧ index < t.page.items.length ∧
      t.holdUp n = t.goto (.confirming index)) ∨
    ((n = 0 ∨ t.page.items.length < n) ∧ t.holdUp n = t) := by
  by_cases listed : 1 ≤ n ∧ n ≤ t.page.items.length
  · refine .inl ⟨n - 1, by omega, by omega, if_pos listed⟩
  · exact .inr ⟨by omega, if_neg listed⟩

/-- In the picker, the number of an item holds it up. -/
lemma respond_pick (picking : t.mode = .picking) (listed : index < t.page.items.length) :
    t.respond (.number (index + 1)) = (none, t.goto (.confirming index)) := by
  have held : t.holdUp (index + 1) = t.goto (.confirming index) :=
    if_pos ⟨Nat.le_add_left 1 index, listed⟩
  obtain ⟨page, mode, dirty⟩ := t
  cases picking
  exact congrArg (Prod.mk none) held

/-- In the picker, cancelling leads back to the choices. -/
lemma respond_back (picking : t.mode = .picking) :
    t.respond .cancel = (none, t.goto .choosing) := by
  obtain ⟨page, mode, dirty⟩ := t
  cases picking
  rfl

/-- While an item is held up, confirming presents it. -/
lemma respond_confirm {s : Selection} (confirming : t.mode = .confirming index)
    (offered : t.page.selectionFor (.present index) = some s) :
    t.respond .confirm = (some s, { t with mode := .spent }) := by
  obtain ⟨page, mode, dirty⟩ := t
  cases confirming
  exact congrArg (Terminal.deliver _) offered

/-- Among the choices, every answer is one of `Chooses`. -/
lemma chooses (choosing : t.mode = .choosing) (event : InputEvent) :
    t.Chooses event (t.respond event) := by
  cases event with
  | number n =>
    cases n with
    | zero =>
      -- choices are counted from one
      rw [respond_number choosing]
      exact .ignored (fun _ => nofun) nofun
    | succ index =>
      cases offered : t.page.selectionFor (.choice index) with
      | some s =>
        rw [respond_choice choosing offered]
        exact .chosen offered
      | none =>
        rw [respond_number choosing, if_pos (Nat.le_add_left 1 index), Nat.add_sub_cancel, offered]
        refine .ignored (fun _ => nofun) ?_
        rintro _ ⟨⟩
        exact offered
  | key c =>
    by_cases opens : c = 'p' ∧ t.page.present.isSome
    · obtain ⟨rfl, opens⟩ := opens
      rw [respond_open choosing opens]
      exact .opened opens
    · rw [respond_key choosing, if_neg opens]
      refine .ignored ?_ nofun
      rintro isSome ⟨⟩
      exact opens ⟨rfl, isSome⟩
  | _ =>
    obtain ⟨page, mode, dirty⟩ := t
    cases choosing
    exact .ignored (fun _ => nofun) nofun

/-- In the picker, every answer is one of `Picks`. -/
lemma picks (picking : t.mode = .picking) (event : InputEvent) :
    t.Picks event (t.respond event) := by
  obtain ⟨page, mode, dirty⟩ := t
  cases picking
  cases event with
  | number n =>
    show Picks _ _ (none, Terminal.holdUp _ n)
    obtain ⟨index, rfl, listed, held⟩ | ⟨unlisted, held⟩ := holdUp_cases ⟨page, .picking, dirty⟩ n
    · rw [held]
      exact .heldUp listed
    · rw [held]
      refine .ignored nofun ?_
      rintro _ ⟨⟩
      exact unlisted
  | cancel => exact .closed
  | _ => exact .ignored nofun nofun

/-- While an item is held up, every answer is one of `Confirms`. -/
lemma confirms (confirming : t.mode = .confirming index) (event : InputEvent) :
    t.Confirms index event (t.respond event) := by
  cases event with
  | number n =>
    obtain ⟨page, mode, dirty⟩ := t
    cases confirming
    show Confirms _ _ _ (none, Terminal.holdUp _ n)
    obtain ⟨other, rfl, listed, held⟩ | ⟨unlisted, held⟩ :=
      holdUp_cases ⟨page, .confirming index, dirty⟩ n
    · rw [held]
      exact .heldUp listed
    · rw [held]
      refine .ignored nofun ?_ nofun
      rintro _ ⟨⟩
      exact unlisted
  | confirm =>
    cases offered : t.page.selectionFor (.present index) with
    | some s =>
      rw [respond_confirm confirming offered]
      exact .presented offered
    | none =>
      obtain ⟨page, mode, dirty⟩ := t
      cases confirming
      show Confirms _ _ _ (Terminal.deliver _ (page.selectionFor (.present index)))
      rw [offered]
      exact .ignored nofun nofun fun _ => offered
  | cancel =>
    obtain ⟨page, mode, dirty⟩ := t
    cases confirming
    exact .putDown
  | _ =>
    obtain ⟨page, mode, dirty⟩ := t
    cases confirming
    exact .ignored nofun nofun nofun

end

/-- All that an event can change: nothing, the mode with the screen lagging behind, or by a report
the mode alone. -/
lemma respond_changes (t : Terminal) (event : InputEvent) :
    t.respond event = (none, t) ∨ (∃ mode, t.respond event = (none, t.goto mode)) ∨
      ∃ s, t.respond event = (some s, { t with mode := .spent }) := by
  cases mode : t.mode with
  | spent => exact .inl (respond_spent mode event)
  | choosing =>
    have taken := chooses mode event
    generalize t.respond event = r at taken ⊢
    cases taken with
    | chosen _ => exact .inr (.inr ⟨_, rfl⟩)
    | opened _ => exact .inr (.inl ⟨_, rfl⟩)
    | ignored _ _ => exact .inl rfl
  | picking =>
    have taken := picks mode event
    generalize t.respond event = r at taken ⊢
    cases taken with
    | heldUp _ => exact .inr (.inl ⟨_, rfl⟩)
    | closed => exact .inr (.inl ⟨_, rfl⟩)
    | ignored _ _ => exact .inl rfl
  | confirming index =>
    have taken := confirms mode event
    generalize t.respond event = r at taken ⊢
    cases taken with
    | presented _ => exact .inr (.inr ⟨_, rfl⟩)
    | heldUp _ => exact .inr (.inl ⟨_, rfl⟩)
    | putDown => exact .inr (.inl ⟨_, rfl⟩)
    | ignored _ _ _ => exact .inl rfl

/-! ## Sequences of events -/

/-- The terminal after some events. -/
def heard (t : Terminal) (events : List InputEvent) : Terminal :=
  events.foldl (fun t event => (t.respond event).2) t

/-- What each of some events gets reported. -/
def answers (t : Terminal) : List InputEvent → List (Option Selection)
  | [] => []
  | event :: rest => (t.respond event).1 :: answers (t.respond event).2 rest

/-- None of the events gets anything reported. -/
def Silent (t : Terminal) (events : List InputEvent) : Prop :=
  ∀ answer ∈ t.answers events, answer = none

instance (t : Terminal) (events : List InputEvent) : Decidable (t.Silent events) :=
  inferInstanceAs (Decidable (∀ answer ∈ t.answers events, answer = none))

/-- The page was built since the last reset, and there was no event since. -/
inductive Built : Terminal → Prop where
  | reset (t : Terminal) :
    Built (Surface.reset t)
  | text {t} (text : String) :
    Built t →
    Built (Surface.addText t text)
  | choice {t} (label : String) (handle : ChoiceHandle) :
    Built t →
    Built (Surface.addChoice t label handle)
  | present {t} (items : List Item) (handle : PresentHandle) :
    Built t →
    Built (Surface.addPresent t items handle)

/-- A page that was just built waits for a choice, and is not drawn yet. -/
lemma Built.fresh {t : Terminal} (built : t.Built) : t.mode = .choosing ∧ t.dirty = true := by
  induction built with
  | reset t => exact ⟨rfl, rfl⟩
  | text _ _ ih => exact ⟨ih.1, rfl⟩
  | choice _ _ _ ih => exact ⟨ih.1, rfl⟩
  | present _ _ _ ih => exact ⟨ih.1, rfl⟩

/-- Events are taken one after the other. -/
lemma heard_append (t : Terminal) (events later : List InputEvent) :
    t.heard (events ++ later) = (t.heard events).heard later :=
  List.foldl_append

/-- A sequence is silent if its first event is, and the others are behind it. -/
lemma silent_cons {t : Terminal} {event : InputEvent} {rest : List InputEvent} :
    t.Silent (event :: rest) ↔ (t.respond event).1 = none ∧ (t.respond event).2.Silent rest :=
  List.forall_mem_cons

/-- The terminal after a sequence whose first event is known. -/
lemma heard_cons {t t' : Terminal} {event : InputEvent} {answer : Option Selection}
    (taken : t.respond event = (answer, t')) (rest : List InputEvent) :
    t.heard (event :: rest) = t'.heard rest := by
  show (t.respond event).2.heard rest = t'.heard rest
  rw [taken]

/-- What is left of a silent sequence behind its first event is silent. -/
lemma Silent.after {t t' : Terminal} {event : InputEvent} {rest : List InputEvent}
    {answer : Option Selection} (silent : t.Silent (event :: rest))
    (taken : t.respond event = (answer, t')) : t'.Silent rest := by
  have later := (silent_cons.1 silent).2
  rwa [taken] at later

/-- A sequence is silent if both of its parts are, each in its turn. -/
lemma silent_append {t : Terminal} {events later : List InputEvent} :
    t.Silent (events ++ later) ↔ t.Silent events ∧ (t.heard events).Silent later := by
  induction events generalizing t with
  | nil => exact ⟨fun silent => ⟨nofun, silent⟩, fun silent => silent.2⟩
  | cons event rest ih =>
    rw [List.cons_append, silent_cons, silent_cons, ih, and_assoc]
    rfl

/-- Events leave the page as it is. -/
lemma page_heard (t : Terminal) (events : List InputEvent) : (t.heard events).page = t.page := by
  induction events generalizing t with
  | nil => rfl
  | cons event rest ih => exact (ih _).trans (LawfulSurface.page_respond t event)

/-- Events leave a screen that lags behind as it is. -/
lemma dirty_heard {t : Terminal} (dirty : t.dirty = true) (events : List InputEvent) :
    (t.heard events).dirty = true := by
  induction events generalizing t with
  | nil => exact dirty
  | cons event rest ih =>
    refine ih (t := (t.respond event).2) ?_
    obtain same | ⟨mode, gone⟩ | ⟨s, reported⟩ := t.respond_changes event
    · rwa [same]
    · rw [gone]
      rfl
    · rwa [reported]

/-- Once a selection was reported, the terminal stays spent. -/
lemma heard_spent {t : Terminal} (spent : t.mode = .spent) (events : List InputEvent) :
    (t.heard events).mode = .spent := by
  induction events generalizing t with
  | nil => exact spent
  | cons event rest ih =>
    have still : (t.respond event).2.mode = .spent := by
      rw [respond_spent spent]
      exact spent
    exact ih still

/-- A terminal that has reported anything is spent. -/
lemma spent_of_not_silent {t : Terminal} {events : List InputEvent} (reported : ¬ t.Silent events) :
    (t.heard events).mode = .spent := by
  induction events generalizing t with
  | nil => exact absurd nofun reported
  | cons event rest ih =>
    cases answer : (t.respond event).1 with
    | none => exact ih fun silent => reported (silent_cons.2 ⟨answer, silent⟩)
    | some s => exact heard_spent (spent_of_reported answer) rest

/-- No event after a report gets another. -/
lemma silent_of_reported {t : Terminal} {events : List InputEvent} {event : InputEvent}
    {s : Selection} (reported : ((t.heard events).respond event).1 = some s) : t.Silent events := by
  refine Decidable.byContradiction fun loud => ?_
  rw [respond_spent (spent_of_not_silent loud)] at reported
  cases reported

end Terminal

end Parley
