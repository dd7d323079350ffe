import Parley.Proofs.Surface.Reports

/-!
# Scripted picks

A step of a script takes the first option of a page that it accepts (`ScriptStep.Takes`), or waits
if it accepts none (`ScriptStep.Waits`). Whatever it takes can be selected, so an automated surface
that follows a script loses the leading step if and only if it reports a selection
(`Automated.replays`). However such a surface is used, the steps that are left are the script
without as many leading steps as selections were reported (`Automated.steps_after`).
-/

namespace Parley

namespace ScriptStep

/-- The step takes the first option of its kind that it accepts. -/
inductive Takes (page : Page) : ScriptStep → Pick → Prop where
  | choose {accepts i label} :
    page.labels[i]? = some label →
    accepts label = true →
    (∀ j < i, ∀ other, page.labels[j]? = some other → accepts other = false) →
    Takes page (.choose accepts) (.choice i)
  | present {accepts i item} :
    page.items[i]? = some item →
    accepts item.name = true →
    (∀ j < i, ∀ other, page.items[j]? = some other → accepts other.name = false) →
    Takes page (.present accepts) (.present i)

/-- The step accepts no option of its kind. -/
inductive Waits (page : Page) : ScriptStep → Prop where
  | choose {accepts} :
    (∀ label ∈ page.labels, accepts label = false) →
    Waits page (.choose accepts)
  | present {accepts} :
    (∀ item ∈ page.items, accepts item.name = false) →
    Waits page (.present accepts)

variable {page : Page}

/-- The first element of a list that is accepted, and those before it. -/
lemma findIdx?_first {α : Type} {xs : List α} {accepts : α → Bool} {i : Nat}
    (found : xs.findIdx? accepts = some i) :
    ∃ x, xs[i]? = some x ∧ accepts x = true ∧
      ∀ j < i, ∀ other, xs[j]? = some other → accepts other = false := by
  obtain ⟨inside, accepted, others⟩ := List.findIdx?_eq_some_iff_getElem.1 found
  refine ⟨xs[i], List.getElem?_eq_getElem inside, accepted, fun j before other listed => ?_⟩
  obtain ⟨_, rfl⟩ := List.getElem?_eq_some_iff.1 listed
  exact Bool.eq_false_iff.2 (others j before)

/-- A step takes an option of the page, or it waits. -/
lemma pick?_cases (step : ScriptStep) (page : Page) :
    (∃ pick, step.pick? page = some pick ∧ step.Takes page pick) ∨
      (step.pick? page = none ∧ step.Waits page) := by
  cases step with
  | choose accepts =>
    rw [pick?]
    cases found : page.labels.findIdx? accepts with
    | some i =>
      obtain ⟨_, listed, accepted, others⟩ := findIdx?_first found
      exact .inl ⟨.choice i, rfl, .choose listed accepted others⟩
    | none => exact .inr ⟨rfl, .choose (List.findIdx?_eq_none_iff.1 found)⟩
  | present accepts =>
    rw [pick?]
    cases found : page.items.findIdx? (accepts ·.name) with
    | some i =>
      obtain ⟨_, listed, accepted, others⟩ := findIdx?_first found
      exact .inl ⟨.present i, rfl, .present listed accepted others⟩
    | none => exact .inr ⟨rfl, .present (List.findIdx?_eq_none_iff.1 found)⟩

/-- What a step takes can be selected. -/
lemma Takes.offered {step : ScriptStep} {pick : Pick} (takes : step.Takes page pick) :
    ∃ s, page.selectionFor pick = some s := by
  cases takes with
  | choose listed _ _ =>
    rw [Page.labels, List.getElem?_map] at listed
    obtain ⟨⟨_, handle⟩, held, _⟩ := Option.map_eq_some_iff.1 listed
    exact ⟨.choice handle, Page.selectionFor_choice_iff.2 ⟨_, handle, held, rfl⟩⟩
  | present listed _ _ =>
    obtain ⟨handle, offered⟩ := Page.offered_of_getElem?_items listed
    exact ⟨_, offered⟩

end ScriptStep

/-- The picks of a scripted policy: none without a step or while the step waits, and else what the
step takes. -/
inductive ScriptedPolicy.Picks (p : ScriptedPolicy) (page : Page) :
    Option Pick × ScriptedPolicy → Prop where
  | usedUp :
    p.steps = [] →
    Picks p page (none, p)
  | waits {step rest} :
    p.steps = step :: rest →
    step.Waits page →
    Picks p page (none, p)
  | takes {step rest pick} :
    p.steps = step :: rest →
    step.Takes page pick →
    Picks p page (some pick, ⟨rest⟩)

/-- A scripted policy picks in one of the ways of `Picks`. -/
lemma ScriptedPolicy.pick_inv (p : ScriptedPolicy) (page : Page) :
    p.Picks page (Policy.pick p page) := by
  obtain ⟨steps⟩ := p
  cases steps with
  | nil => exact .usedUp rfl
  | cons step rest =>
    obtain ⟨pick, picked, takes⟩ | ⟨unpicked, waits⟩ := step.pick?_cases page
    · simp only [Policy.pick, picked]
      exact .takes rfl takes
    · simp only [Policy.pick, unpicked]
      exact .waits rfl waits

namespace Automated

open Surface (use after report? reports)

/-- The answers of an automated surface that follows a script: it reports nothing and stays as it
is, or it reports what its next step takes, and that step is gone. -/
inductive Replays (a : Automated ScriptedPolicy) : Option Selection × Automated ScriptedPolicy → Prop
    where
  | spent :
    a.spent = true →
    Replays a (none, a)
  | usedUp :
    a.policy.steps = [] →
    Replays a (none, a)
  | waits {step rest} :
    a.policy.steps = step :: rest →
    step.Waits a.page →
    Replays a (none, a)
  | takes {step rest pick s} :
    a.policy.steps = step :: rest →
    step.Takes a.page pick →
    a.page.selectionFor pick = some s →
    Replays a (some s, { a with policy := ⟨rest⟩, spent := true, lastPick := some pick })

/-- An automated surface with a script answers in one of the ways of `Replays`. -/
lemma replays (a : Automated ScriptedPolicy) : a.Replays a.respond := by
  by_cases spent : a.spent = true
  · rw [respond_spent spent]
    exact .spent spent
  have picks := a.policy.pick_inv a.page
  rw [respond, if_neg spent]
  generalize Policy.pick a.policy a.page = r at picks
  cases picks with
  | usedUp none_left => exact .usedUp none_left
  | waits next waits => exact .waits next waits
  | takes next takes =>
    -- what a step takes is on the page, so no step is lost on a pick that is not offered
    obtain ⟨s, offered⟩ := takes.offered
    dsimp only
    rw [offered]
    exact .takes next takes offered

/-- One use of the surface takes as many steps from the script as it gets selections reported. -/
lemma steps_use (a : Automated ScriptedPolicy) (u : Use) :
    (use a u).policy.steps = a.policy.steps.drop (report? a u).toList.length := by
  cases u with
  | respond event =>
    have replays := a.replays
    show a.respond.2.policy.steps = a.policy.steps.drop a.respond.1.toList.length
    generalize a.respond = r at replays
    cases replays with
    | spent _ => rfl
    | usedUp _ => rfl
    | waits _ _ => rfl
    | takes next _ _ =>
      rw [next]
      rfl
  | _ => rfl

/-- The steps that are left are the script without as many leading steps as selections were
reported. -/
lemma steps_after (a : Automated ScriptedPolicy) (uses : List Use) :
    (after a uses).policy.steps = a.policy.steps.drop (reports a uses).length := by
  induction uses generalizing a with
  | nil => rfl
  | cons u rest ih =>
    show (after (use a u) rest).policy.steps = _
    rw [ih, steps_use, List.drop_drop, reports, List.length_append]

/-- A pick is delivered with each selection that is reported. -/
lemma length_delivered {π : Type} [Policy π] (a : Automated π) :
    a.deliveredPick?.toList.length = a.respond.1.toList.length := by
  cases reported : a.respond.1 with
  | none =>
    rw [deliveredPick?, reported]
    rfl
  | some s =>
    obtain ⟨_, delivered, _, _⟩ := deliveredPick?_reported reported
    rw [delivered]
    rfl

/-- A selection is reported for what the next step of the script takes. -/
lemma reported_takes {a : Automated ScriptedPolicy} {s : Selection}
    (reported : a.respond.1 = some s) :
    ∃ step pick, a.policy.steps = step :: a.respond.2.policy.steps ∧ step.Takes a.page pick ∧
      a.page.selectionFor pick = some s ∧ a.deliveredPick? = some pick := by
  obtain ⟨pick, delivered, offered, noted⟩ := deliveredPick?_reported reported
  have replays := a.replays
  generalize a.respond = r at replays reported noted
  cases replays with
  | spent _ => cases reported
  | usedUp _ => cases reported
  | waits _ _ => cases reported
  | @takes step rest pick' s' next takes offered' =>
    cases noted
    exact ⟨step, pick, next, takes, offered, delivered⟩

end Automated

end Parley
