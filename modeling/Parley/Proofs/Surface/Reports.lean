import Parley.Proofs.Surface.Drawing
import Parley.Proofs.Surface.Lawful

/-!
# Reports of surfaces

A surface is reset, written on and given events in whatever order its host likes (`Use`). By
reporting a selection it is spent, and but for a reset nothing that is done with it changes that
(`SpendableSurface`), so between two resets it reports once at most. An automated surface moreover
notes the pick behind its report, until it is taken. `surfaces_report_once` says what follows for
the terminal, and for the automated surface whatever its policy is.
-/

namespace Parley

/-- What can be done with a surface. -/
inductive Use where
  | reset
  | addText (text : String)
  | addChoice (label : String) (handle : ChoiceHandle)
  | addPresent (items : List Item) (handle : PresentHandle)
  | respond (event : InputEvent)
  /-- A terminal is drawn to a fresh output with these answers to its writes. Surfaces of another
  kind are left alone. -/
  | draw (answers : List WriteAnswer)
  /-- From an automated surface the last pick is taken. Surfaces of another kind are left alone. -/
  | takePick

/-- A surface that a report leaves spent until the next reset. -/
class SpendableSurface (σ : Type) [Surface σ] extends LawfulSurface σ where
  draw : σ → List WriteAnswer → σ
  takePick : σ → σ
  Spent : σ → Prop
  spent_of_reported {s : σ} {event : InputEvent} {selection : Selection}
    (reported : (Surface.respond s event).1 = some selection) : Spent (Surface.respond s event).2
  respond_spent {s : σ} (spent : Spent s) (event : InputEvent) : Surface.respond s event = (none, s)
  spent_addText {s : σ} (spent : Spent s) (text : String) : Spent (Surface.addText s text)
  spent_addChoice {s : σ} (spent : Spent s) (label : String) (handle : ChoiceHandle) :
    Spent (Surface.addChoice s label handle)
  spent_addPresent {s : σ} (spent : Spent s) (items : List Item) (handle : PresentHandle) :
    Spent (Surface.addPresent s items handle)
  spent_draw {s : σ} (spent : Spent s) (answers : List WriteAnswer) : Spent (draw s answers)
  spent_takePick {s : σ} (spent : Spent s) : Spent (takePick s)

instance : SpendableSurface Terminal where
  draw t answers := (t.drawTo (.fresh answers)).2.2
  takePick t := t
  Spent t := t.mode = .spent
  spent_of_reported := Terminal.spent_of_reported
  respond_spent spent event := Terminal.respond_spent spent event
  spent_addText spent _ := spent
  spent_addChoice spent _ _ := spent
  spent_addPresent spent _ _ := spent
  spent_draw {t} spent answers := by
    rw [Terminal.drawTo_terminal]
    exact spent
  spent_takePick spent := spent

instance {π : Type} [Policy π] : SpendableSurface (Automated π) where
  draw a _ := a
  takePick a := a.takePick.2
  Spent a := a.spent = true
  spent_of_reported reported := (Automated.respond_reported reported).1
  respond_spent spent _ := Automated.respond_spent spent
  spent_addText spent _ := spent
  spent_addChoice spent _ _ := spent
  spent_addPresent spent _ _ := spent
  spent_draw spent _ := spent
  spent_takePick spent := spent

namespace Surface

variable {σ : Type} [Surface σ] [SpendableSurface σ]

open SpendableSurface (Spent)

/-- A surface after one use of it. -/
def use (s : σ) : Use → σ
  | .reset => reset s
  | .addText text => addText s text
  | .addChoice label handle => addChoice s label handle
  | .addPresent items handle => addPresent s items handle
  | .respond event => (respond s event).2
  | .draw answers => SpendableSurface.draw s answers
  | .takePick => SpendableSurface.takePick s

/-- What one use of a surface gets reported. -/
def report? (s : σ) : Use → Option Selection
  | .respond event => (respond s event).1
  | _ => none

/-- A surface after several uses. -/
def after (s : σ) (uses : List Use) : σ := uses.foldl use s

/-- All that several uses of a surface get reported, in order. -/
def reports (s : σ) : List Use → List Selection
  | [] => []
  | u :: rest => (report? s u).toList ++ reports (use s u) rest

/-- Only a reset makes a surface that is spent take events again. -/
lemma spent_use {s : σ} (spent : Spent s) {u : Use} (unreset : u ≠ .reset) :
    Spent (use s u) ∧ report? s u = none := by
  cases u with
  | reset => exact absurd rfl unreset
  | addText text => exact ⟨SpendableSurface.spent_addText spent text, rfl⟩
  | addChoice label handle => exact ⟨SpendableSurface.spent_addChoice spent label handle, rfl⟩
  | addPresent items handle => exact ⟨SpendableSurface.spent_addPresent spent items handle, rfl⟩
  | respond event =>
    have silent := SpendableSurface.respond_spent spent event
    rw [use, report?, silent]
    exact ⟨spent, rfl⟩
  | draw answers => exact ⟨SpendableSurface.spent_draw spent answers, rfl⟩
  | takePick => exact ⟨SpendableSurface.spent_takePick spent, rfl⟩

/-- A surface that has reported is spent. -/
lemma spent_of_report {s : σ} {u : Use} {selection : Selection}
    (reported : report? s u = some selection) : Spent (use s u) := by
  cases u with
  | respond event => exact SpendableSurface.spent_of_reported reported
  | _ => cases reported

/-- A surface that is spent reports no more until it is reset. -/
lemma reports_spent {s : σ} (spent : Spent s) {uses : List Use} (unreset : .reset ∉ uses) :
    reports s uses = [] := by
  induction uses generalizing s with
  | nil => rfl
  | cons u rest ih =>
    rw [List.mem_cons, not_or] at unreset
    obtain ⟨still, silent⟩ := spent_use spent (Ne.symm unreset.1)
    rw [reports, silent, ih still unreset.2]
    rfl

/-- However a surface is used without a reset, it reports once at most. -/
lemma length_reports (s : σ) {uses : List Use} (unreset : .reset ∉ uses) :
    (reports s uses).length ≤ 1 := by
  induction uses generalizing s with
  | nil => exact Nat.zero_le 1
  | cons u rest ih =>
    rw [List.mem_cons, not_or] at unreset
    rw [reports]
    cases reported : report? s u with
    | none => exact ih (use s u) unreset.2
    | some selection =>
      rw [reports_spent (spent_of_report reported) unreset.2]
      exact Nat.le_refl 1

/-- Whatever is done with the surface from now on, it reports once at most between two resets, and
only what its page offers at that moment. -/
structure ReportsOnce (s : σ) : Prop where
  once : ∀ before during, .reset ∉ during → (reports (after s before) during).length ≤ 1
  offered : ∀ before event selection, (respond (after s before) event).1 = some selection →
    ∃ pick, (page (after s before)).selectionFor pick = some selection

/-- Every surface that can be spent reports once at most between two resets. -/
lemma reportsOnce (s : σ) : ReportsOnce s where
  once before _ unreset := length_reports (after s before) unreset
  offered _ _ _ reported := LawfulSurface.respond_offered reported

end Surface

/-! ## The picks behind reports -/

namespace Automated

open Surface (use after)

variable {π : Type} [Policy π]

/-- What the host of an automated surface sees of picks. -/
inductive Entry where
  /-- A selection was reported, with this pick of the policy behind it. -/
  | delivered (pick : Pick)
  /-- The last pick was taken, if there was one. -/
  | taken (pick : Option Pick)

/-- The pick behind the selection that an event gets reported. -/
def deliveredPick? (a : Automated π) : Option Pick :=
  if a.respond.1.isSome then (Policy.pick a.policy a.page).1 else none

/-- What a use of the surface adds to the log. -/
def entries (a : Automated π) : Use → List Entry
  | .respond _ => a.deliveredPick?.toList.map .delivered
  | .takePick => [.taken a.takePick.1]
  | _ => []

/-- The log of several uses. -/
def log (a : Automated π) : List Use → List Entry
  | [] => []
  | u :: rest => a.entries u ++ log (use a u) rest

/-- The picks behind all selections that were reported, oldest first. -/
def delivered (entries : List Entry) : List Pick :=
  entries.filterMap fun
    | .delivered pick => some pick
    | .taken _ => none

/-- The picks that were taken, oldest first. -/
def taken (entries : List Entry) : List Pick :=
  entries.filterMap fun
    | .delivered _ => none
    | .taken pick => pick

/-- Between any two reports a pick is taken; `pending` tells whether one is due before the first. -/
def TakenBetween : (pending : Bool) → List Entry → Prop
  | _, [] => True
  | pending, .delivered _ :: rest => pending = false ∧ TakenBetween true rest
  | _, .taken _ :: rest => TakenBetween false rest

/-- A pick that is taken first stands before those that are taken later. -/
lemma taken_cons (pick : Option Pick) (rest : List Entry) :
    taken (.taken pick :: rest) = pick.toList ++ taken rest := by
  cases pick with
  | none => rfl
  | some pick => rfl

/-- Behind a report is a pick that the page offers, and it is noted as the last one. -/
lemma deliveredPick?_reported {a : Automated π} {s : Selection} (reported : a.respond.1 = some s) :
    ∃ pick, a.deliveredPick? = some pick ∧ a.page.selectionFor pick = some s ∧
      a.respond.2.lastPick = some pick := by
  obtain ⟨_, pick, picked, offered, noted⟩ := respond_reported reported
  refine ⟨pick, ?_, offered, noted⟩
  rw [deliveredPick?, reported]
  exact picked

/-- An event either delivers a pick, which is the last one then, or leaves the last pick alone. -/
lemma lastPick_respond (a : Automated π) :
    (a.deliveredPick? = none ∧ a.respond.2.lastPick = a.lastPick) ∨
      ∃ pick, a.deliveredPick? = some pick ∧ a.respond.2.lastPick = some pick := by
  cases reported : a.respond.1 with
  | none =>
    refine .inl ⟨by rw [deliveredPick?, reported]; rfl, ?_⟩
    obtain ⟨_, same⟩ | answer := a.respond_cases
    · rw [same]
    · generalize a.respond = r at answer reported ⊢
      cases answer with
      | declined _ _ => rfl
      | selected _ _ => cases reported
  | some s =>
    obtain ⟨pick, logged, _, noted⟩ := deliveredPick?_reported reported
    exact .inr ⟨pick, logged, noted⟩

/-- What was taken, with the pick that is still pending, is what was delivered, with the pick that
was pending at first, unless a report comes while a pick is pending. -/
lemma taken_append_lastPick {a : Automated π} {uses : List Use}
    (between : TakenBetween a.lastPick.isSome (a.log uses)) :
    taken (a.log uses) ++ (after a uses).lastPick.toList =
      a.lastPick.toList ++ delivered (a.log uses) := by
  induction uses generalizing a with
  | nil => exact (List.append_nil _).symm
  | cons u rest ih =>
    cases u with
    | reset => exact ih (a := use a .reset) between
    | addText text => exact ih (a := use a (.addText text)) between
    | addChoice label handle => exact ih (a := use a (.addChoice label handle)) between
    | addPresent items handle => exact ih (a := use a (.addPresent items handle)) between
    | draw answers => exact ih (a := use a (.draw answers)) between
    | takePick =>
      have later := ih (a := use a .takePick) between
      show taken (.taken a.lastPick :: (use a .takePick).log rest) ++ _ = _
      rw [taken_cons, List.append_assoc]
      exact congrArg (a.lastPick.toList ++ ·) later
    | respond event =>
      have logged : a.log (.respond event :: rest) =
        a.deliveredPick?.toList.map .delivered ++ (use a (.respond event)).log rest := rfl
      rw [logged] at between ⊢
      obtain ⟨undelivered, same⟩ | ⟨pick, delivered, noted⟩ := a.lastPick_respond
      · rw [undelivered, ← same] at between
        rw [undelivered, ← same]
        exact ih (a := use a (.respond event)) between
      · rw [delivered] at between ⊢
        -- nothing is pending here, so the pick that is noted now overwrites none
        obtain ⟨none_pending, between⟩ := between
        have unset : a.lastPick = none := by simpa using none_pending
        have noted : (use a (.respond event)).lastPick = some pick := noted
        have later := ih (a := use a (.respond event)) (by rwa [noted])
        rw [noted] at later
        rw [unset]
        exact later

/-- The policy is left alone while the surface is spent. -/
lemma policy_after {a : Automated π} (spent : a.spent = true) {uses : List Use}
    (unreset : .reset ∉ uses) : (after a uses).policy = a.policy := by
  induction uses generalizing a with
  | nil => rfl
  | cons u rest ih =>
    rw [List.mem_cons, not_or] at unreset
    have same : (use a u).policy = a.policy := by
      cases u with
      | respond event =>
        show a.respond.2.policy = a.policy
        rw [respond_spent spent]
      | _ => rfl
    obtain ⟨still, _⟩ := Surface.spent_use (s := a) spent (Ne.symm unreset.1)
    exact (ih still unreset.2).trans same

/-- How an automated surface deals with picks from now on. -/
structure MindsPicks (a : Automated π) : Prop where
  /-- Behind a report is the pick of the policy for the page as it is at that moment. -/
  behind : ∀ before s, (after a before).respond.1 = some s →
    ∃ pick, (after a before).deliveredPick? = some pick ∧
      (after a before).page.selectionFor pick = some s
  /-- After a report the policy stays as it is until the next reset. A policy may well count how
  often it is asked, so it is not asked at all. -/
  unasked : ∀ before event during, (after a before).respond.1 ≠ none → .reset ∉ during →
    (after a (before ++ .respond event :: during)).policy = (after a before).respond.2.policy
  /-- The picks that are taken, with the one that was not taken yet, are those behind the reports. -/
  picks : ∀ uses, TakenBetween false (a.log uses) →
    taken (a.log uses) ++ (after a uses).lastPick.toList = delivered (a.log uses)

/-- A surface on which no pick is pending deals with picks as told. -/
lemma mindsPicks {a : Automated π} (fresh : a.lastPick = none) : a.MindsPicks where
  behind before s reported := by
    obtain ⟨pick, delivered, offered, _⟩ := deliveredPick?_reported reported
    exact ⟨pick, delivered, offered⟩
  unasked before event during reported unreset := by
    obtain ⟨s, reported⟩ := Option.ne_none_iff_exists'.1 reported
    have later := policy_after (respond_reported reported).1 unreset
    rw [after, List.foldl_append]
    exact later
  picks uses between := by
    have none_pending : a.lastPick.isSome = false := by rw [fresh]; rfl
    rw [← none_pending] at between
    have all := taken_append_lastPick between
    rwa [fresh] at all

end Automated

/-- A terminal reports once at most between two resets, and only what its page offers, in whatever
order it is reset, written on, drawn and given events. So does an automated surface with any policy;
it asks the policy no more once it has reported, and provided that a pick is taken between any two
reports, the picks that are taken are those behind the reports, each once and in order. -/
theorem surfaces_report_once :
    Surface.ReportsOnce Terminal.blank ∧
    ∀ (π : Type) [Policy π] (policy : π),
      Surface.ReportsOnce (Automated.blank policy) ∧ (Automated.blank policy).MindsPicks :=
  ⟨Surface.reportsOnce _, fun _ _ _ => ⟨Surface.reportsOnce _, Automated.mindsPicks rfl⟩⟩

/-- A pick that the page does not offer leaves no entry, and a reset takes no pick away. -/
example : (Automated.blank (FixedPolicy.mk [some (.choice 7), some (.choice 0)])).log
    [.addChoice "On" ⟨1, 0⟩, .respond .tick, .respond .tick, .reset, .takePick, .takePick] =
      [.delivered (.choice 0), .taken (some (.choice 0)), .taken none] := rfl

end Parley
