import Parley.Conversation
import Parley.Proofs.Surface.Page
import Parley.Surface.Automated
import Parley.Surface.Recorder
import Parley.Surface.Terminal

/-!
# Lawful surfaces

What a conversation relies on when it shows an episode: a surface keeps the page that it is told to
build (`LawfulSurface`), and an event neither changes that page nor selects what is not on it. Once
it has reported a selection it is mute until it is reset (`OneShotSurface`), as the terminal and the
automated surface are; the recorder never reports anything. `page_display` is the page of an episode
on any lawful surface.
-/

namespace Parley

/-- The surface keeps its page as it is told to, and events select only what the page offers. -/
class LawfulSurface (σ : Type) [Surface σ] : Prop where
  page_reset (s : σ) : Surface.page (Surface.reset s) = .empty
  page_addText (s : σ) (text : String) :
    Surface.page (Surface.addText s text) = (Surface.page s).addText text
  page_addChoice (s : σ) (label : String) (handle : ChoiceHandle) :
    Surface.page (Surface.addChoice s label handle) = (Surface.page s).addChoice label handle
  page_addPresent (s : σ) (items : List Item) (handle : PresentHandle) :
    Surface.page (Surface.addPresent s items handle) = (Surface.page s).setPresent items handle
  page_respond (s : σ) (event : InputEvent) :
    Surface.page (Surface.respond s event).2 = Surface.page s
  respond_offered {s : σ} {event : InputEvent} {selection : Selection}
    (reported : (Surface.respond s event).1 = some selection) :
    ∃ pick, (Surface.page s).selectionFor pick = some selection

/-! ## The surfaces of this library -/

namespace Terminal

/-- Delivering a selection leaves the page as it is. -/
lemma page_deliver (t : Terminal) (selection : Option Selection) :
    (t.deliver selection).2.page = t.page := by
  cases selection with
  | none => rfl
  | some s => rfl

/-- Holding up an item leaves the page as it is. -/
lemma page_holdUp (t : Terminal) (n : Nat) : (t.holdUp n).page = t.page := by
  unfold holdUp
  split
  · rfl
  · rfl

/-- A terminal that holds up an item is not spent by it. -/
lemma mode_holdUp {t : Terminal} {n : Nat} (spent : (t.holdUp n).mode = .spent) :
    t.mode = .spent := by
  unfold holdUp at spent
  split at spent
  · cases spent
  · exact spent

/-- Whatever is delivered is reported. -/
lemma deliver_fst (t : Terminal) (selection : Option Selection) :
    (t.deliver selection).1 = selection := by
  cases selection with
  | none => rfl
  | some s => rfl

/-- Among the choices, a number from one on asks for the choice at its place. -/
lemma respond_number {t : Terminal} (choosing : t.mode = .choosing) (n : Nat) :
    t.respond (.number n) =
      if 1 ≤ n then t.deliver (t.page.selectionFor (.choice (n - 1))) else (none, t) := by
  obtain ⟨page, mode, dirty⟩ := t
  cases choosing
  rfl

/-- Among the choices, `p` is the one key that means anything. -/
lemma respond_key {t : Terminal} (choosing : t.mode = .choosing) (c : Char) :
    t.respond (.key c) =
      if c = 'p' ∧ t.page.present.isSome then (none, t.goto .picking) else (none, t) := by
  obtain ⟨page, mode, dirty⟩ := t
  cases choosing
  rfl

/-- What an event does to a terminal: it delivers an option of the page, or it reports nothing and
leaves the page as it is, in a mode that is spent only if it was spent before. -/
lemma respond_cases (t : Terminal) (event : InputEvent) :
    (∃ pick, t.mode ≠ .spent ∧ t.respond event = t.deliver (t.page.selectionFor pick)) ∨
      ((t.respond event).1 = none ∧ (t.respond event).2.page = t.page ∧
        ((t.respond event).2.mode = .spent → t.mode = .spent)) := by
  obtain ⟨page, mode, dirty⟩ := t
  -- the mode decides which events mean something, so the cases follow the rows of `respond`
  cases mode with
  | spent => cases event <;> exact .inr ⟨rfl, rfl, fun h => h⟩
  | choosing =>
    cases event with
    | number n =>
      by_cases positive : 1 ≤ n
      · exact .inl ⟨.choice (n - 1), nofun, if_pos positive⟩
      · rw [respond_number (t := ⟨page, .choosing, dirty⟩) rfl, if_neg positive]
        exact .inr ⟨rfl, rfl, nofun⟩
    | key c =>
      rw [respond_key (t := ⟨page, .choosing, dirty⟩) rfl]
      split
      · exact .inr ⟨rfl, rfl, nofun⟩
      · exact .inr ⟨rfl, rfl, nofun⟩
    | _ => exact .inr ⟨rfl, rfl, nofun⟩
  | picking =>
    cases event with
    | number n => exact .inr ⟨rfl, page_holdUp _ n, mode_holdUp⟩
    | _ => exact .inr ⟨rfl, rfl, nofun⟩
  | confirming index =>
    cases event with
    | number n => exact .inr ⟨rfl, page_holdUp _ n, mode_holdUp⟩
    | confirm => exact .inl ⟨.present index, nofun, rfl⟩
    | _ => exact .inr ⟨rfl, rfl, nofun⟩

/-- A terminal that reports nothing is not spent by the event. -/
lemma respond_unspent {t : Terminal} {event : InputEvent}
    (silent : (t.respond event).1 = none) (unspent : t.mode ≠ .spent) :
    (t.respond event).2.mode ≠ .spent := by
  obtain ⟨pick, _, e⟩ | ⟨_, _, spent⟩ := t.respond_cases event
  · rw [e, deliver_fst] at silent
    rw [e, silent]
    exact unspent
  · exact fun h => unspent (spent h)

end Terminal

instance : LawfulSurface Terminal where
  page_reset _ := rfl
  page_addText _ _ := rfl
  page_addChoice _ _ _ := rfl
  page_addPresent _ _ _ := rfl
  page_respond t event := by
    show (t.respond event).2.page = t.page
    obtain ⟨pick, _, e⟩ | ⟨_, page, _⟩ := t.respond_cases event
    · rw [e]
      exact t.page_deliver _
    · exact page
  respond_offered {t event selection} reported := by
    change (t.respond event).1 = some selection at reported
    show ∃ pick, t.page.selectionFor pick = some selection
    obtain ⟨pick, _, e⟩ | ⟨silent, _, _⟩ := t.respond_cases event
    · rw [e, Terminal.deliver_fst] at reported
      exact ⟨pick, reported⟩
    · rw [silent] at reported
      cases reported

namespace Automated

variable {π : Type} [Policy π]

/-- A surface that is spent reports nothing, and does not ask its policy. -/
lemma respond_spent {a : Automated π} (spent : a.spent = true) : a.respond = (none, a) :=
  if_pos spent

/-- The answers of an automated surface that takes events. -/
inductive Answer (a : Automated π) : Option Selection × Automated π → Prop where
  | declined {pick policy} :
    Policy.pick a.policy a.page = (pick, policy) →
    pick.bind a.page.selectionFor = none →
    Answer a (none, { a with policy })
  | selected {pick policy s} :
    Policy.pick a.policy a.page = (some pick, policy) →
    a.page.selectionFor pick = some s →
    Answer a (some s, { a with policy, spent := true, lastPick := some pick })

/-- A surface that takes events asks its policy, and answers with what it picks. -/
lemma respond_inv {a : Automated π} (fresh : a.spent = false) : a.Answer a.respond := by
  have unspent : ¬ a.spent = true := by
    rw [fresh]
    exact Bool.false_ne_true
  rw [respond, if_neg unspent]
  generalize picked : Policy.pick a.policy a.page = r
  obtain ⟨pick, policy⟩ := r
  cases pick with
  | none => exact .declined picked rfl
  | some pick =>
    dsimp only
    cases offered : a.page.selectionFor pick with
    | none => exact .declined picked offered
    | some s => exact .selected picked offered

/-- An automated surface reports nothing when it is spent, and else it answers. -/
lemma respond_cases (a : Automated π) :
    (a.spent = true ∧ a.respond = (none, a)) ∨ a.Answer a.respond := by
  by_cases spent : a.spent = true
  · exact .inl ⟨spent, respond_spent spent⟩
  · exact .inr (respond_inv (Bool.eq_false_iff.2 spent))

/-- Events leave the page of an automated surface as it is. -/
lemma page_respond (a : Automated π) : a.respond.2.page = a.page := by
  obtain ⟨_, silent⟩ | answer := a.respond_cases
  · rw [silent]
  · generalize a.respond = r at answer ⊢
    cases answer with
    | declined _ _ => rfl
    | selected _ _ => rfl

/-- What is reported is what the policy picked from the page, and the surface is spent then. -/
lemma respond_reported {a : Automated π} {s : Selection} (reported : a.respond.1 = some s) :
    a.respond.2.spent = true ∧ ∃ pick, (Policy.pick a.policy a.page).1 = some pick ∧
      a.page.selectionFor pick = some s ∧ a.respond.2.lastPick = some pick := by
  obtain ⟨_, silent⟩ | answer := a.respond_cases
  · rw [silent] at reported
    cases reported
  · generalize a.respond = r at answer reported ⊢
    cases answer with
    | declined _ _ => cases reported
    | selected picked offered =>
      cases reported
      exact ⟨rfl, _, congrArg Prod.fst picked, offered, rfl⟩

end Automated

instance {π : Type} [Policy π] : LawfulSurface (Automated π) where
  page_reset _ := rfl
  page_addText _ _ := rfl
  page_addChoice _ _ _ := rfl
  page_addPresent _ _ _ := rfl
  page_respond a _ := a.page_respond
  respond_offered reported := by
    obtain ⟨_, pick, _, offered, _⟩ := Automated.respond_reported reported
    exact ⟨pick, offered⟩

instance : LawfulSurface Recorder where
  page_reset _ := rfl
  page_addText _ _ := rfl
  page_addChoice _ _ _ := rfl
  page_addPresent _ _ _ := rfl
  page_respond _ _ := rfl
  respond_offered reported := by cases reported

/-! ## Surfaces that have nothing to report -/

namespace Surface

variable {σ : Type} [Surface σ]

/-- No event gets a selection out of the surface, however many come before it. -/
def Mute (s : σ) : Prop :=
  ∀ (events : List InputEvent) (event : InputEvent),
    (respond (events.foldl (fun s event => (respond s event).2) s) event).1 = none

/-- A surface that is mute reports nothing now. -/
lemma Mute.silent {s : σ} (mute : Mute s) (event : InputEvent) : (respond s event).1 = none :=
  mute [] event

/-- A surface that is mute stays so over events. -/
lemma Mute.respond {s : σ} (mute : Mute s) (event : InputEvent) : Mute (respond s event).2 :=
  fun events => mute (event :: events)

/-- What keeps a surface from reporting, and is kept by every event, makes it mute. -/
lemma mute_of_kept {P : σ → Prop} (silent : ∀ s event, P s → (Surface.respond s event).1 = none)
    (kept : ∀ s event, P s → P (Surface.respond s event).2) {s : σ} (holds : P s) : Mute s := by
  intro events
  induction events generalizing s with
  | nil => exact fun event => silent s event holds
  | cons event rest ih => exact ih (kept s event holds)

/-- A state in which events do nothing at all is a mute one. -/
lemma mute_of_ignored {P : σ → Prop} (ignored : ∀ s event, P s → Surface.respond s event = (none, s))
    {s : σ} (holds : P s) : Mute s := by
  refine mute_of_kept (P := P) ?_ ?_ holds
  · intro s event holds
    rw [ignored s event holds]
  · intro s event holds
    rw [ignored s event holds]
    exact holds

/-- An empty page leaves nothing to report. -/
lemma mute_of_empty [LawfulSurface σ] {s : σ} (empty : page s = .empty) : Mute s := by
  refine mute_of_kept (P := fun s => page s = .empty) ?_ ?_ empty
  · intro s event empty
    cases reported : (Surface.respond s event).1 with
    | none => rfl
    | some selection =>
      obtain ⟨pick, offered⟩ := LawfulSurface.respond_offered reported
      rw [empty, Page.selectionFor_empty] at offered
      cases offered
  · intro s event empty
    rw [LawfulSurface.page_respond]
    exact empty

end Surface

/-- A lawful surface that reports once at most before it is reset. -/
class OneShotSurface (σ : Type) [Surface σ] : Prop extends LawfulSurface σ where
  mute_of_reported {s : σ} {event : InputEvent} {selection : Selection}
    (reported : (Surface.respond s event).1 = some selection) :
    Surface.Mute (Surface.respond s event).2

/-- A spent terminal stays spent. -/
lemma Terminal.respond_spent {t : Terminal} (spent : t.mode = .spent) (event : InputEvent) :
    t.respond event = (none, t) := by
  obtain ⟨page, mode, dirty⟩ := t
  cases spent
  cases event <;> rfl

/-- The only way to report is to deliver, and that spends the terminal. -/
lemma Terminal.spent_of_reported {t : Terminal} {event : InputEvent} {s : Selection}
    (reported : (t.respond event).1 = some s) : (t.respond event).2.mode = .spent := by
  obtain ⟨pick, _, e⟩ | ⟨silent, _, _⟩ := t.respond_cases event
  · rw [e, deliver_fst] at reported
    rw [e, reported]
    rfl
  · rw [silent] at reported
    cases reported

instance : OneShotSurface Terminal where
  mute_of_reported reported :=
    Surface.mute_of_ignored (P := fun t : Terminal => t.mode = .spent)
      (fun _ event spent => Terminal.respond_spent spent event)
      (Terminal.spent_of_reported reported)

instance {π : Type} [Policy π] : OneShotSurface (Automated π) where
  mute_of_reported reported :=
    Surface.mute_of_ignored (P := fun a : Automated π => a.spent = true)
      (fun _ _ spent => Automated.respond_spent spent) (Automated.respond_reported reported).1

/-! ## The page of an episode -/

namespace Conversation

variable {σ : Type} [Surface σ] [LawfulSurface σ]

/-- The choices of a page, with handles that count from `index` on. -/
def choicesFrom (id : Nat) (choices : List Choice) (index : Nat) : List (String × ChoiceHandle) :=
  (choices.zipIdx index).map fun (choice, i) => (choice.label, ⟨id, i⟩)

/-- Adding choices to a surface adds them to its page. -/
lemma page_addChoices (id : Nat) (choices : List Choice) (index : Nat) (s : σ) :
    Surface.page (addChoices id choices index s) =
      { Surface.page s with
        choices := (Surface.page s).choices ++ choicesFrom id choices index } := by
  induction choices generalizing index s with
  | nil => simp [addChoices, choicesFrom]
  | cons choice rest ih =>
    rw [addChoices, ih, LawfulSurface.page_addChoice]
    simp [Page.addChoice, choicesFrom]

/-- The page of an episode holds its text, its choices in order, and the items if there are any. -/
lemma page_display (s : σ) (id : Nat) (text : String) (choices : List Choice)
    (items : Option (List Item)) :
    Surface.page (display s id text choices items) =
      ⟨[text], choicesFrom id choices 0, items.map (·, ⟨id⟩)⟩ := by
  have built : Surface.page (addChoices id choices 0 (Surface.addText (Surface.reset s) text)) =
      ⟨[text], choicesFrom id choices 0, none⟩ := by
    rw [page_addChoices, LawfulSurface.page_addText, LawfulSurface.page_reset]
    rfl
  cases items with
  | none => exact built
  | some items =>
    show Surface.page (Surface.addPresent _ items ⟨id⟩) = _
    rw [LawfulSurface.page_addPresent, built]
    rfl

/-- A terminal that was just written on takes choices. -/
lemma mode_display (t : Terminal) (id : Nat) (text : String) (choices : List Choice)
    (items : Option (List Item)) : (display t id text choices items).mode = .choosing := by
  have kept : ∀ (choices : List Choice) (index : Nat) (t : Terminal),
      (addChoices id choices index t).mode = t.mode := by
    intro choices
    induction choices with
    | nil => exact fun _ _ => rfl
    | cons choice rest ih => exact fun index t => ih (index + 1) _
  cases items with
  | none => exact kept choices 0 _
  | some items => exact kept choices 0 _

end Conversation

end Parley
