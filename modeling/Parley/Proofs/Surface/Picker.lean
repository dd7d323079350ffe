import Mathlib.Data.List.Induction
import Parley.Proofs.Surface.Drawing
import Parley.Proofs.Surface.Gestures

/-!
# The item picker of a terminal

What a number means at a terminal follows from the events since the last reset alone. After them
the item picker is closed (`PickerClosed`) or open (`PickerOpen`), and while it is open an item may
be held up (`HoldsUp`); none of this mentions the mode, which is read off it (`PickerClosed.mode`,
`PickerOpen.mode`). `delivered_iff_gesture` says that a selection takes the full gesture for it, and
`no_trap` that every option can still be selected, whatever the events were.
-/

namespace Parley.Terminal

/-! ## What the events since a reset amount to -/

/-- After these events in the picker an item is held up: its number came, and since then nothing was
cancelled and no number of the list came. -/
def HoldsUp (p : Page) (index : Nat) (events : List InputEvent) : Prop :=
  ∃ before after, events = before ++ .number (index + 1) :: after ∧ index < p.items.length ∧
    .cancel ∉ after ∧ ∀ event ∈ after, p.Unlisted event

/-- The picker stays open during these events: whatever was cancelled only put down an item that
was held up. -/
def StaysOpen (p : Page) (inside : List InputEvent) : Prop :=
  ∀ before after, inside = before ++ .cancel :: after → ∃ index, HoldsUp p index before

/-- The picker is closed after these events since the reset: it was never opened, or since it was
opened last it was backed out of, from the list and not merely from an item. -/
inductive PickerClosed (p : Page) : List InputEvent → Prop where
  | unopened {events} :
    (p.present.isSome → .key 'p' ∉ events) →
    PickerClosed p events
  | backedOut {before inside after} :
    PickerClosed p before →
    p.present.isSome →
    StaysOpen p inside →
    (∀ index, ¬ HoldsUp p index inside) →
    .key 'p' ∉ after →
    PickerClosed p (before ++ .key 'p' :: inside ++ .cancel :: after)

/-- The picker is open after these events since the reset; `inside` are those since it opened. -/
def PickerOpen (p : Page) (inside events : List InputEvent) : Prop :=
  ∃ before, events = before ++ .key 'p' :: inside ∧ PickerClosed p before ∧ p.present.isSome ∧
    StaysOpen p inside

/-- The full gesture for a selection: its last event and the events before it. -/
inductive Gesture (p : Page) (events : List InputEvent) : InputEvent → Selection → Prop where
  | choose {index s} :
    PickerClosed p events →
    p.selectionFor (.choice index) = some s →
    Gesture p events (.number (index + 1)) s
  | present {inside index s} :
    PickerOpen p inside events →
    HoldsUp p index inside →
    p.selectionFor (.present index) = some s →
    Gesture p events .confirm s

section

variable {p : Page} {index : Nat} {events inside : List InputEvent} {event : InputEvent}

/-- Where an event stands in a sequence that goes on by one: it is the last one, or it stood there
before. -/
lemma concat_eq_append_cons {x : InputEvent} {before after : List InputEvent}
    (e : events ++ [event] = before ++ x :: after) :
    (events = before ∧ event = x ∧ after = []) ∨
      ∃ after', after = after' ++ [event] ∧ events = before ++ x :: after' := by
  obtain rfl | ⟨after', last, rfl⟩ := List.eq_nil_or_concat after
  · obtain ⟨same, ⟨⟩⟩ := List.append_inj' e rfl
    exact .inl ⟨same, rfl, rfl⟩
  · rw [List.concat_eq_append] at e ⊢
    rw [← List.cons_append, ← List.append_assoc] at e
    obtain ⟨same, ⟨⟩⟩ := List.append_inj' e rfl
    exact .inr ⟨after', rfl, same⟩

/-- An item is held up if its number came last, or if it was held up before and the last event was
neither a way back nor the number of another. -/
lemma holdsUp_concat :
    HoldsUp p index (events ++ [event]) ↔
      (event = .number (index + 1) ∧ index < p.items.length) ∨
        (HoldsUp p index events ∧ event ≠ .cancel ∧ p.Unlisted event) := by
  constructor
  · rintro ⟨before, after, e, listed, kept, unlisted⟩
    obtain ⟨_, last, _⟩ | ⟨after', rfl, e'⟩ := concat_eq_append_cons e
    · exact .inl ⟨last, listed⟩
    · simp only [List.mem_append, List.mem_singleton, not_or] at kept unlisted
      refine .inr ⟨⟨before, after', e', listed, kept.1, ?_⟩, Ne.symm kept.2, ?_⟩
      · exact fun event mem => unlisted event (.inl mem)
      · exact unlisted event (.inr rfl)
  · rintro (⟨rfl, listed⟩ | ⟨⟨before, after, rfl, listed, kept, unlisted⟩, uncancelled, last⟩)
    · exact ⟨events, [], rfl, listed, nofun, nofun⟩
    · refine ⟨before, after ++ [event], by simp, listed, ?_, ?_⟩
      · simp only [List.mem_append, List.mem_singleton, not_or]
        exact ⟨kept, Ne.symm uncancelled⟩
      · simp only [List.mem_append, List.mem_singleton]
        rintro e (mem | rfl)
        · exact unlisted e mem
        · exact last

/-- One item is held up at a time. -/
lemma holdsUp_unique {other : Nat} (held : HoldsUp p index events)
    (held' : HoldsUp p other events) : other = index := by
  induction events using List.reverseRecOn with
  | nil =>
    obtain ⟨before, after, e, _⟩ := held
    exact absurd e.symm (by simp)
  | append_singleton events event ih =>
    obtain ⟨rfl, listed⟩ | ⟨held, _, unlisted⟩ := holdsUp_concat.1 held
    · obtain ⟨⟨⟩, _⟩ | ⟨_, _, unlisted⟩ := holdsUp_concat.1 held'
      · rfl
      · have := unlisted _ rfl
        omega
    · obtain ⟨rfl, listed⟩ | ⟨held', _, _⟩ := holdsUp_concat.1 held'
      · have := unlisted _ rfl
        omega
      · exact ih held held'

/-- The picker stays open over one more event unless that closes it. -/
lemma staysOpen_concat :
    StaysOpen p (inside ++ [event]) ↔
      StaysOpen p inside ∧ (event = .cancel → ∃ index, HoldsUp p index inside) := by
  constructor
  · intro stays
    refine ⟨?_, ?_⟩
    · rintro before after rfl
      exact stays before (after ++ [event]) (by simp)
    · rintro rfl
      exact stays inside [] rfl
  · rintro ⟨stays, last⟩ before after e
    obtain ⟨rfl, cancelled, _⟩ | ⟨after', _, e'⟩ := concat_eq_append_cons e
    · exact last cancelled
    · exact stays before after' e'

/-- Only the key that opens the picker ends its being closed. -/
lemma PickerClosed.concat (closed : PickerClosed p events)
    (unopened : p.present.isSome → event ≠ .key 'p') : PickerClosed p (events ++ [event]) := by
  have stillNot {events : List InputEvent} (opens : p.present.isSome) (mem : .key 'p' ∉ events) :
      .key 'p' ∉ events ++ [event] := by
    simp only [List.mem_append, List.mem_singleton, not_or]
    exact ⟨mem, Ne.symm (unopened opens)⟩
  cases closed with
  | unopened never => exact .unopened fun opens => stillNot opens (never opens)
  | backedOut closed opens stays down never =>
    rw [List.append_assoc, List.cons_append]
    exact .backedOut closed opens stays down (stillNot opens never)

/-- The picker is closed or open after any events. -/
lemma pickerClosed_or_open (p : Page) (events : List InputEvent) :
    PickerClosed p events ∨ ∃ inside, PickerOpen p inside events := by
  induction events using List.reverseRecOn with
  | nil => exact .inl (.unopened fun _ => nofun)
  | append_singleton events event ih =>
    obtain closed | ⟨inside, before, rfl, closed, opens, stays⟩ := ih
    · by_cases opening : p.present.isSome ∧ event = .key 'p'
      · obtain ⟨opens, rfl⟩ := opening
        exact .inr ⟨[], events, rfl, closed, opens, by simp [StaysOpen]⟩
      · exact .inl (closed.concat fun opens e => opening ⟨opens, e⟩)
    · by_cases held : event = .cancel → ∃ index, HoldsUp p index inside
      · exact .inr ⟨inside ++ [event], before, by simp, closed, opens,
          staysOpen_concat.2 ⟨stays, held⟩⟩
      · obtain ⟨rfl, down⟩ := Classical.not_imp.1 held
        exact .inl (.backedOut closed opens stays (not_exists.1 down) nofun)

end

/-! ## The mode after the events -/

section

variable {t : Terminal} {events inside : List InputEvent}

/-- Until the picker is opened, numbers select choices. -/
lemma mode_unopened (choosing : t.mode = .choosing) (silent : t.Silent events)
    (unopened : t.page.present.isSome → .key 'p' ∉ events) : (t.heard events).mode = .choosing := by
  induction events generalizing t with
  | nil => exact choosing
  | cons event rest ih =>
    have same : t.respond event = (none, t) := by
      have quiet := (silent_cons.1 silent).1
      have taken := chooses choosing event
      generalize t.respond event = r at taken quiet
      cases taken with
      | chosen _ => cases quiet
      | opened opens => exact absurd List.mem_cons_self (unopened opens)
      | ignored _ _ => rfl
    rw [heard_cons same]
    exact ih choosing (silent.after same) fun opens mem =>
      unopened opens (List.mem_cons_of_mem _ mem)

/-- The mode while the picker is open: an item is held up, or the list is shown. -/
def Within (p : Page) (inside : List InputEvent) (mode : TerminalMode) : Prop :=
  (∃ index, HoldsUp p index inside ∧ mode = .confirming index) ∨
    ((∀ index, ¬ HoldsUp p index inside) ∧ mode = .picking)

/-- One more event in the picker. -/
lemma Within.concat {event : InputEvent} (within : Within t.page inside t.mode)
    (quiet : (t.respond event).1 = none)
    (stays : event = .cancel → ∃ index, HoldsUp t.page index inside) :
    Within t.page (inside ++ [event]) (t.respond event).2.mode := by
  simp only [Within, holdsUp_concat]
  obtain ⟨index, held, confirming⟩ | ⟨down, picking⟩ := within
  · have taken := confirms confirming event
    generalize t.respond event = r at taken quiet ⊢
    cases taken with
    | presented _ => cases quiet
    | heldUp listed => exact .inl ⟨_, .inl ⟨rfl, listed⟩, rfl⟩
    | putDown => exact .inr ⟨by simp, rfl⟩
    | ignored uncancelled unlisted _ =>
      exact .inl ⟨index, .inr ⟨held, uncancelled, unlisted⟩, confirming⟩
  · have taken := picks picking event
    generalize t.respond event = r at taken quiet ⊢
    cases taken with
    | heldUp listed => exact .inl ⟨_, .inl ⟨rfl, listed⟩, rfl⟩
    | closed =>
      obtain ⟨index, held⟩ := stays rfl
      exact absurd held (down index)
    | ignored _ unlisted =>
      refine .inr ⟨?_, picking⟩
      rintro index (⟨rfl, listed⟩ | ⟨held, _⟩)
      · have := unlisted _ rfl
        omega
      · exact down index held

/-- What a terminal asks for in the picker is told by the events since it was opened. -/
lemma mode_inside (picking : t.mode = .picking) (silent : t.Silent inside)
    (stays : StaysOpen t.page inside) : Within t.page inside (t.heard inside).mode := by
  induction inside using List.reverseRecOn with
  | nil => exact .inr ⟨by simp [HoldsUp], picking⟩
  | append_singleton inside event ih =>
    obtain ⟨silent, last⟩ := silent_append.1 silent
    obtain ⟨stays, held⟩ := staysOpen_concat.1 stays
    have within := ih silent stays
    rw [← page_heard t inside] at within held ⊢
    rw [heard_append]
    exact within.concat (silent_cons.1 last).1 held

/-- The key opens the picker, which then stays open. -/
lemma mode_opened (choosing : t.mode = .choosing) (opens : t.page.present.isSome)
    (silent : t.Silent (.key 'p' :: inside)) (stays : StaysOpen t.page inside) :
    Within t.page inside (t.heard (.key 'p' :: inside)).mode := by
  have opened := respond_open choosing opens
  rw [heard_cons opened]
  exact mode_inside (t := t.goto .picking) rfl (silent.after opened) stays

/-- While the picker is closed, numbers select choices. -/
lemma PickerClosed.mode (closed : PickerClosed t.page events) (choosing : t.mode = .choosing)
    (silent : t.Silent events) : (t.heard events).mode = .choosing := by
  generalize page : t.page = p at closed
  induction closed with
  | unopened never => exact mode_unopened choosing silent (page ▸ never)
  | @backedOut before inside after _ opens stays down never ih =>
    subst page
    -- three stretches: before the picker was opened, inside it, and behind the way back
    rw [List.append_assoc, List.cons_append] at silent ⊢
    rw [← List.cons_append] at silent ⊢
    obtain ⟨silent, silent'⟩ := silent_append.1 silent
    obtain ⟨silent', silent''⟩ := silent_append.1 silent'
    have within := mode_opened (t := t.heard before) (ih silent) (by rwa [page_heard]) silent'
      (by rwa [page_heard])
    rw [page_heard] at within
    rw [heard_append, heard_append]
    obtain ⟨index, held, _⟩ | ⟨_, picking⟩ := within
    · exact absurd held (down index)
    · generalize listing : (t.heard before).heard (.key 'p' :: inside) = now at silent'' picking
      have back := respond_back picking
      rw [heard_cons back]
      exact mode_unopened (t := now.goto .choosing) rfl (silent''.after back) fun _ => never

/-- While the picker is open, an item is held up or the list is shown. -/
lemma PickerOpen.mode (opened : PickerOpen t.page inside events) (choosing : t.mode = .choosing)
    (silent : t.Silent events) : Within t.page inside (t.heard events).mode := by
  obtain ⟨before, rfl, closed, opens, stays⟩ := opened
  obtain ⟨silent, silent'⟩ := silent_append.1 silent
  have choosing' := closed.mode choosing silent
  have within := mode_opened (t := t.heard before) choosing' (by rwa [page_heard]) silent'
    (by rwa [page_heard])
  rw [page_heard] at within
  rw [heard_append]
  exact within

end

/-! ## Nothing is selected without the full gesture -/

section

variable {t : Terminal} {events inside : List InputEvent}

/-- The picker is not closed and open at once. -/
lemma PickerClosed.not_open (closed : PickerClosed t.page events) (choosing : t.mode = .choosing)
    (silent : t.Silent events) : ¬ PickerOpen t.page inside events := by
  intro opened
  have mode := closed.mode choosing silent
  obtain ⟨index, _, confirming⟩ | ⟨_, picking⟩ := opened.mode choosing silent
  · rw [confirming] at mode
    cases mode
  · rw [picking] at mode
    cases mode

/-- A selection that is reported is the end of its gesture. -/
lemma gesture_of_reported {event : InputEvent} {s : Selection} (choosing : t.mode = .choosing)
    (reported : ((t.heard events).respond event).1 = some s) : Gesture t.page events event s := by
  have silent := silent_of_reported reported
  -- nothing was reported before, so the events tell the mode, and the mode the answers
  obtain closed | ⟨inside, opened⟩ := pickerClosed_or_open t.page events
  · have taken := chooses (closed.mode choosing silent) event
    generalize (t.heard events).respond event = r at taken reported
    cases taken with
    | chosen offered =>
      cases reported
      rw [page_heard] at offered
      exact .choose closed offered
    | opened _ => cases reported
    | ignored _ _ => cases reported
  · obtain ⟨index, held, confirming⟩ | ⟨_, picking⟩ := opened.mode choosing silent
    · have taken := confirms confirming event
      generalize (t.heard events).respond event = r at taken reported
      cases taken with
      | presented offered =>
        cases reported
        rw [page_heard] at offered
        exact .present opened held offered
      | heldUp _ => cases reported
      | putDown => cases reported
      | ignored _ _ _ => cases reported
    · have taken := picks picking event
      generalize (t.heard events).respond event = r at taken reported
      cases taken with
      | heldUp _ => cases reported
      | closed => cases reported
      | ignored _ _ => cases reported

/-- The full gesture gets its selection reported, unless another one was before. -/
lemma Gesture.reported {event : InputEvent} {s : Selection}
    (gesture : Gesture t.page events event s) (choosing : t.mode = .choosing)
    (silent : t.Silent events) :
    ((t.heard events).respond event).1 = some s := by
  cases gesture with
  | choose closed offered =>
    rw [respond_choice (closed.mode choosing silent) (by rwa [page_heard])]
  | @present inside index _ opened held offered =>
    obtain ⟨other, held', confirming⟩ | ⟨down, _⟩ := opened.mode choosing silent
    · obtain rfl : other = index := holdsUp_unique held held'
      rw [respond_confirm confirming (by rwa [page_heard])]
    · exact absurd held (down index)

end

/-- Whatever page a terminal was given since its last reset, and whatever events came since: an
event gets a selection reported if and only if it ends the full gesture for it and nothing was
reported before. In particular no number selects anything while the picker is open, and confirming
selects nothing while it is closed. -/
theorem delivered_iff_gesture {t : Terminal} (built : t.Built) (events : List InputEvent) :
    (∀ event s, ((t.heard events).respond event).1 = some s ↔
      t.Silent events ∧ Gesture t.page events event s) ∧
    (∀ inside, PickerOpen t.page inside events →
      ∀ n, ((t.heard events).respond (.number n)).1 = none) ∧
    (PickerClosed t.page events → ((t.heard events).respond .confirm).1 = none) := by
  obtain ⟨choosing, _⟩ := built.fresh
  refine ⟨fun event s => ⟨fun reported => ?_, ?_⟩, fun inside opened n => ?_, fun closed => ?_⟩
  · exact ⟨silent_of_reported reported, gesture_of_reported choosing reported⟩
  · rintro ⟨silent, gesture⟩
    exact gesture.reported choosing silent
  · by_contra selects
    obtain ⟨s, reported⟩ := Option.ne_none_iff_exists'.1 selects
    cases gesture_of_reported choosing reported with
    | choose closed _ => exact closed.not_open choosing (silent_of_reported reported) opened
  · by_contra selects
    obtain ⟨s, reported⟩ := Option.ne_none_iff_exists'.1 selects
    cases gesture_of_reported choosing reported with
    | present opened _ _ => exact closed.not_open choosing (silent_of_reported reported) opened

/-- A goblet is held up, put down, and pants are held up in its place; two numbers beyond the list
change nothing. Then confirming presents the pants, but the number of the choice selects nothing. -/
theorem delivered_iff_gesture_pants :
    let t : Terminal := Surface.addPresent
      (Surface.addChoice (Surface.reset blank) "Royalty" ⟨1, 0⟩) [⟨"goblet"⟩, ⟨"pants"⟩] ⟨1⟩
    let events := [.key 'p', .number 1, .number 3, .cancel, .tick, .number 2, .number 0]
    let pants := .present ⟨1⟩ ⟨"pants"⟩
    t.Built ∧ ((t.heard events).respond .confirm).1 = some pants ∧
      Gesture t.page events .confirm pants ∧ ((t.heard events).respond (.number 1)).1 = none := by
  intro t events pants
  have built : t.Built := .present _ _ (.choice _ _ (.reset _))
  have reported : ((t.heard events).respond .confirm).1 = some pants := rfl
  obtain ⟨silent, gesture⟩ := ((delivered_iff_gesture built events).1 .confirm pants).1 reported
  cases gesture with
  | present opened held offered =>
    exact ⟨built, reported, .present opened held offered,
      (delivered_iff_gesture built events).2.1 _ opened 1⟩

/-! ## Every option can be selected -/

section

variable {t : Terminal}

/-- As long as nothing was reported, the terminal takes numbers for choices or for items, or an item
of the list is held up. -/
lemma mode_silent (choosing : t.mode = .choosing) {events : List InputEvent}
    (silent : t.Silent events) :
    (t.heard events).mode = .choosing ∨ (t.heard events).mode = .picking ∨
      ∃ index, index < t.page.items.length ∧ (t.heard events).mode = .confirming index := by
  obtain closed | ⟨inside, opened⟩ := pickerClosed_or_open t.page events
  · exact .inl (closed.mode choosing silent)
  · obtain ⟨index, ⟨_, _, _, listed, _⟩, confirming⟩ | ⟨_, picking⟩ := opened.mode choosing silent
    · exact .inr (.inr ⟨index, listed, confirming⟩)
    · exact .inr (.inl picking)

/-- Cancelling twice leads back to the choices. -/
lemma answers_cancel_cancel (unspent : t.mode ≠ .spent) :
    ∃ back : Terminal, back.mode = .choosing ∧ back.page = t.page ∧
      ∀ rest, t.answers (.cancel :: .cancel :: rest) = none :: none :: back.answers rest := by
  obtain ⟨page, mode, dirty⟩ := t
  cases mode with
  | spent => exact absurd rfl unspent
  | choosing => exact ⟨⟨page, .choosing, dirty⟩, rfl, rfl, fun _ => rfl⟩
  | picking => exact ⟨⟨page, .choosing, true⟩, rfl, rfl, fun _ => rfl⟩
  | confirming index => exact ⟨⟨page, .choosing, true⟩, rfl, rfl, fun _ => rfl⟩

/-- The gestures of a pick get its selection reported, at the last of them. -/
lemma answers_gestures (choosing : t.mode = .choosing) (pick : Pick) {s : Selection}
    (offered : t.page.selectionFor pick = some s) :
    t.answers pick.gestures = List.replicate (pick.gestures.length - 1) none ++ [some s] := by
  cases pick with
  | choice index =>
    rw [Pick.gestures, answers, respond_choice choosing offered]
    rfl
  | present index =>
    obtain ⟨opens, listed⟩ := Page.listed_of_offered offered
    rw [Pick.gestures, answers, respond_open choosing opens, answers]
    rw [respond_pick (t := t.goto .picking) rfl listed, answers]
    rw [respond_confirm (t := (t.goto .picking).goto (.confirming index)) rfl offered]
    rfl

/-- An item of the list that is held up is presented on confirmation, and named when the terminal
is drawn. -/
lemma held_presented {index : Nat} (confirming : t.mode = .confirming index)
    (listed : index < t.page.items.length) (dirty : t.dirty = true) :
    ∃ items handle item, t.page.present = some (items, handle) ∧ items[index]? = some item ∧
      (t.respond .confirm).1 = some (.present handle item) ∧
      t.draw.1 = linesText ([""] ++ t.page.texts ++ [""] ++
        ["You hold up the " ++ item.name ++ ". [enter] present, [b] back"]) := by
  have named := List.getElem?_eq_getElem listed
  obtain ⟨handle, offered⟩ := Page.offered_of_getElem?_items named
  obtain ⟨items, _, item, presented, found, ⟨⟩⟩ := Page.selectionFor_present_iff.1 offered
  refine ⟨items, handle, _, presented, found, ?_, ?_⟩
  · rw [respond_confirm confirming offered]
  · rw [draw_eq, if_pos dirty, screen, confirming, optionLines, named]

end

/-- Whatever page a terminal was given since its last reset, and whatever events came since, as long
as none of them got anything reported: cancelling twice and the gestures of an option select that
option. An item that is held up is one of the list: drawing names it, confirming presents it. -/
theorem no_trap {t : Terminal} (built : t.Built) {events : List InputEvent}
    (silent : t.Silent events) :
    let now := t.heard events
    (∀ index label handle, t.page.choices[index]? = some (label, handle) →
      now.answers [.cancel, .cancel, .number (index + 1)] = [none, none, some (.choice handle)]) ∧
    (∀ index items handle item, t.page.present = some (items, handle) →
      items[index]? = some item →
      now.answers [.cancel, .cancel, .key 'p', .number (index + 1), .confirm] =
        [none, none, none, none, some (.present handle item)]) ∧
    (∀ index, now.mode = .confirming index →
      ∃ items handle item, t.page.present = some (items, handle) ∧ items[index]? = some item ∧
        (now.respond .confirm).1 = some (.present handle item) ∧
        now.draw.1 = linesText ([""] ++ t.page.texts ++ [""] ++
          ["You hold up the " ++ item.name ++ ". [enter] present, [b] back"])) := by
  intro now
  obtain ⟨choosing, dirty⟩ := built.fresh
  have mode := mode_silent choosing silent
  have page : now.page = t.page := page_heard t events
  have unspent : now.mode ≠ .spent := by
    obtain mode | mode | ⟨index, _, mode⟩ := mode <;> rw [mode] <;> exact nofun
  obtain ⟨back, choosing', page', backed⟩ := answers_cancel_cancel unspent
  rw [page] at page'
  refine ⟨?_, ?_, ?_⟩
  · intro index label handle found
    have offered : back.page.selectionFor (.choice index) = some (.choice handle) := by
      rw [page']
      exact Page.selectionFor_choice_iff.2 ⟨label, handle, found, rfl⟩
    rw [backed]
    exact congrArg (none :: none :: ·) (answers_gestures choosing' (.choice index) offered)
  · intro index items handle item presented found
    have offered : back.page.selectionFor (.present index) = some (.present handle item) := by
      rw [page']
      exact Page.selectionFor_present_iff.2 ⟨items, handle, item, presented, found, rfl⟩
    rw [backed]
    exact congrArg (none :: none :: ·) (answers_gestures choosing' (.present index) offered)
  · intro index confirming
    -- only items of the list are held up, and the page is the same as then
    have listed : index < t.page.items.length := by
      obtain mode | mode | ⟨held, listed, mode⟩ := mode
      · cases confirming.symm.trans mode
      · cases confirming.symm.trans mode
      · cases confirming.symm.trans mode
        exact listed
    rw [← page] at listed ⊢
    exact held_presented confirming listed (dirty_heard dirty events)

/-- Pants are held up and an unknown number comes. Cancelling twice leads back to the choice, or to
the goblet in their place; and confirming would present them. -/
theorem no_trap_pants :
    let t : Terminal := Surface.addPresent
      (Surface.addChoice (Surface.reset blank) "Royalty" ⟨1, 0⟩) [⟨"goblet"⟩, ⟨"pants"⟩] ⟨1⟩
    let events := [.number 2, .key 'p', .number 2, .key 'p', .number 3]
    let now := t.heard events
    t.Built ∧ t.Silent events ∧ now.mode = .confirming 1 ∧
      now.answers [.cancel, .cancel, .number 1] = [none, none, some (.choice ⟨1, 0⟩)] ∧
      now.answers [.cancel, .cancel, .key 'p', .number 1, .confirm] =
        [none, none, none, none, some (.present ⟨1⟩ ⟨"goblet"⟩)] ∧
      ∃ item, (now.respond .confirm).1 = some (.present ⟨1⟩ item) := by
  intro t events now
  have built : t.Built := .present _ _ (.choice _ _ (.reset _))
  have silent : t.Silent events := by decide
  obtain ⟨choices, items, held⟩ := no_trap built silent
  obtain ⟨_, _, item, ⟨⟩, _, confirmed, _⟩ := held 1 rfl
  exact ⟨built, silent, rfl, choices 0 "Royalty" ⟨1, 0⟩ rfl, items 0 _ ⟨1⟩ ⟨"goblet"⟩ rfl rfl,
    item, confirmed⟩

end Parley.Terminal
