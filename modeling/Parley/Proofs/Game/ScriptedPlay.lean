import Parley.Proofs.Game.Playthrough
import Parley.Proofs.Surface.ScriptedPolicy

/-!
# Playthroughs of scripts

A playthrough with a script makes its selections with the steps of the script, in order and each on
its own page (`Course.takes`), and at every moment it has as many steps behind it as selections
(`Moment.steps`). If it ends although the policy could have picked, then no step is left, or the
next one accepts nothing on the last page (`Course.waits`). `script_in_order` says so of whole
playthroughs.
-/

namespace Parley.Playthrough

open Surface (after reports)

variable {π : Type} [Policy π]

/-- The conversations that the remaining turns go through, each with the picks that were delivered
by then: at the beginning of every turn, and after its event. -/
inductive Moment : (remaining : Nat) → Conversation (Automated π) → Npc → List Pick →
    Conversation (Automated π) → Prop where
  | turn {remaining c npc} :
    Moment remaining c npc [] c
  | answered {remaining c npc} :
    Moment (remaining + 1) c npc c.surface.deliveredPick?.toList (c.handleEvent npc .tick).2.1
  | later {remaining c npc key c' npc' delivered now} :
    c.handleEvent npc .tick = (.ok (some (.presenting key)), c', npc') →
    Moment remaining (taken c') npc' delivered now →
    Moment (remaining + 1) c npc (c.surface.deliveredPick?.toList ++ delivered) now

/-- A pick that gets a selection accepted is delivered. -/
lemma selects_delivered {c : Conversation (Automated π)} {pick : Pick} (selects : c.Selects pick) :
    c.surface.deliveredPick? = some pick := by
  obtain ⟨_, _, _, reported, _⟩ := selects.accepted
  rw [Automated.deliveredPick?, reported]
  exact selects.picked

/-- A turn that does not move the conversation delivers no more than its own pick. -/
lemma Moment.unmoved {remaining c npc delivered now}
    (moment : Moment (π := π) (remaining + 1) c npc delivered now)
    (unmoved : ∀ key, (c.handleEvent npc .tick).1 ≠ .ok (some (.presenting key))) :
    delivered <+: c.surface.deliveredPick?.toList := by
  cases moment with
  | turn => exact List.nil_prefix
  | answered => exact List.prefix_rfl
  | later moved _ => exact absurd (congrArg Prod.fst moved) (unmoved _)

/-- A turn that ends the playthrough on a pick delivers no more than that. -/
lemma Moment.last {remaining c npc delivered now pick result}
    (moment : Moment (π := π) (remaining + 1) c npc delivered now) (selects : c.Selects pick)
    (handled : c.handleEvent npc .tick = result)
    (unmoved : ∀ key, result.1 ≠ .ok (some (.presenting key))) : delivered <+: [pick] := by
  rw [← handled] at unmoved
  have own := moment.unmoved unmoved
  rwa [selects_delivered selects] at own

/-- The picks that are delivered are those of the course. -/
lemma Course.delivers {remaining c npc pages picks result delivered now}
    (course : Course (π := π) remaining c npc pages picks result)
    (moment : Moment remaining c npc delivered now) : delivered <+: picks := by
  induction course generalizing delivered with
  | limit =>
    cases moment
    exact List.nil_prefix
  | @declined _ c npc silent =>
    have nothing : c.surface.deliveredPick? = none := by
      rw [Automated.deliveredPick?, silent]
      rfl
    have own := moment.unmoved fun key moved => by
      rw [Conversation.handleEvent_silent silent] at moved
      cases moved
    rwa [nothing] at own
  | stalled selects handled => exact moment.last selects handled fun _ moved => by cases moved
  | exhausted selects handled => exact moment.last selects handled fun _ moved => by cases moved
  | failed selects handled _ _ => exact moment.last selects handled fun _ moved => by cases moved
  | moved selects handled _ ih =>
    cases moment with
    | turn => exact List.nil_prefix
    | answered =>
      rw [selects_delivered selects]
      exact List.prefix_append [_] _
    | later moved later =>
      rw [handled] at moved
      cases moved
      rw [selects_delivered selects]
      exact (List.prefix_append_right_inj [_]).2 (ih later)

/-! ## Steps of a script -/

/-- At every moment, as many leading steps are gone as picks were delivered. -/
lemma Moment.steps {remaining c npc delivered now}
    (moment : Moment (π := ScriptedPolicy) remaining c npc delivered now) :
    now.surface.policy.steps = c.surface.policy.steps.drop delivered.length := by
  have event (c : Conversation (Automated ScriptedPolicy)) (npc : Npc) :
      (c.handleEvent npc .tick).2.1.surface.policy.steps =
        c.surface.policy.steps.drop c.surface.deliveredPick?.toList.length := by
    rw [c.handleEvent_policy, c.surface.length_delivered]
    exact c.surface.steps_use (.respond .tick)
  induction moment with
  | turn => rfl
  | @answered _ c npc => exact event c npc
  | @later _ c npc key c' npc' delivered now handled _ ih =>
    -- the turn that moved the conversation has taken its steps before the others
    have first := event c npc
    rw [handled] at first
    rw [List.length_append, ← List.drop_drop, ← first]
    exact ih

/-- The first step of the script that is left takes the pick that gets a selection accepted. -/
lemma selects_takes {c : Conversation (Automated ScriptedPolicy)} {pick : Pick}
    (selects : c.Selects pick) :
    ∃ step, c.surface.policy.steps = step :: c.surface.respond.2.policy.steps ∧
      step.Takes c.surface.page pick := by
  obtain ⟨_, _, _, reported, _⟩ := selects.accepted
  obtain ⟨step, pick', next, takes, _, delivered⟩ := Automated.reported_takes reported
  rw [selects_delivered selects] at delivered
  cases delivered
  exact ⟨step, next, takes⟩

/-- The picks of a course are taken by the steps of the script, one after the other and each on its
own page. -/
lemma Course.takes {remaining c npc pages picks result}
    (course : Course (π := ScriptedPolicy) remaining c npc pages picks result) {j : Nat}
    {pick : Pick} (picked : picks[j]? = some pick) :
    ∃ step page, c.surface.policy.steps[j]? = some step ∧ pages[j]? = some page ∧
      step.Takes page pick := by
  have single {c : Conversation (Automated ScriptedPolicy)} {p pick : Pick} {j : Nat}
      (selects : c.Selects p) (picked : [p][j]? = some pick) :
      ∃ step page, c.surface.policy.steps[j]? = some step ∧ [c.surface.page][j]? = some page ∧
        step.Takes page pick := by
    obtain ⟨step, next, takes⟩ := selects_takes selects
    cases j with
    | zero =>
      cases picked
      rw [next]
      exact ⟨step, _, rfl, rfl, takes⟩
    | succ j => cases picked
  induction course generalizing j with
  | limit => cases picked
  | declined _ => cases picked
  | stalled selects _ => exact single selects picked
  | exhausted selects _ => exact single selects picked
  | failed selects _ _ _ => exact single selects picked
  | @moved _ c npc _ _ _ _ _ _ _ selects handled _ ih =>
    obtain ⟨step, next, takes⟩ := selects_takes selects
    have kept := c.handleEvent_policy npc .tick
    rw [handled] at kept
    rw [next, ← kept]
    cases j with
    | zero =>
      cases picked
      exact ⟨step, _, rfl, rfl, takes⟩
    | succ j => exact ih picked

/-- A course ends without a pick although the page offers something only if no step is left or the
next one waits. -/
lemma Course.waits {remaining c npc pages picks result}
    (course : Course (π := ScriptedPolicy) remaining c npc pages picks result) (poised : c.Poised)
    (idle : result = .ok .policyIdle) :
    ∃ page, pages.getLast? = some page ∧
      ∀ step, (c.surface.policy.steps.drop picks.length).head? = some step → step.Waits page := by
  induction course with
  | limit => cases idle
  | stalled _ _ => cases idle
  | exhausted _ _ => cases idle
  | failed _ _ _ _ => cases idle
  | @declined _ c npc silent =>
    -- the node waits for a selection, so the surface is not silent for being spent
    refine ⟨c.surface.page, rfl, fun step next => ?_⟩
    have replays := c.surface.replays
    generalize c.surface.respond = r at replays silent
    cases replays with
    | spent spent =>
      rw [poised.fresh] at spent
      cases spent
    | usedUp none_left =>
      rw [none_left] at next
      cases next
    | waits left waits =>
      rw [left] at next
      cases next
      exact waits
    | takes _ _ _ => cases silent
  | @moved _ c npc _ _ _ _ pages _ _ selects handled course ih =>
    obtain ⟨step, next, _⟩ := selects_takes selects
    have kept := c.handleEvent_policy npc .tick
    rw [handled] at kept
    obtain ⟨page, last, waits⟩ := ih (moved_poised poised handled) idle
    rw [next, ← kept]
    refine ⟨page, ?_, waits⟩
    rw [List.getLast?_cons_of_ne_nil (course.bounded idle).started]
    exact last

/-! ## Whole playthroughs -/

/-- What a script does in the course of a playthrough. -/
structure PlaysScript (script : List ScriptStep) (maxTurns : Nat)
    (first : Conversation (Automated ScriptedPolicy)) (npc : Npc) (pages : List Page)
    (picks : List Pick) (result : Except DialogueError PlayOutcome) : Prop where
  course : Course maxTurns first npc pages picks result
  /-- Each selection is made by its own step, on its own page. -/
  made : ∀ (j : Nat) (pick : Pick), picks[j]? = some pick → ∃ step page, script[j]? = some step ∧
    pages[j]? = some page ∧ step.Takes page pick
  /-- At every moment the script lacks as many leading steps as selections were delivered. -/
  left : ∀ delivered now, Moment maxTurns first npc delivered now →
    delivered <+: picks ∧ now.surface.policy.steps = script.drop delivered.length
  /-- The policy declines only if no step is left, or the next one waits on the last page. -/
  idle : result = .ok .policyIdle → ∃ page, pages.getLast? = some page ∧
    ∀ step, (script.drop picks.length).head? = some step → step.Waits page

/-- Whatever the scenario and the script, a playthrough that has a page makes its selections with
the steps of the script in order. Each is made on its own page, by the first label or item that the
step accepts; no step is passed over, lost or used twice, and the playthrough turns idle only when
the script is used up or its next step accepts nothing. So does a surface with the script on its
own, however it is reset, written on and given events: steps are lost by reports only. -/
theorem script_in_order (npc : Npc) (collections : Collections) (entryKeys : List Key)
    (script : List ScriptStep) (source : Random.Source) (maxTurns : Nat) :
    (∀ first, (opening collections entryKeys (ScriptedPolicy.mk script) source).visitRandom npc =
        (.ok (), first) →
      ∃ pages picks, PlaysScript script maxTurns first npc pages picks
        ((play npc collections entryKeys (ScriptedPolicy.mk script) source maxTurns).1.map
          (·.outcome))) ∧
    ∀ uses,
      let blank := Automated.blank (ScriptedPolicy.mk script)
      let a := after blank uses
      a.policy.steps = script.drop (reports blank uses).length ∧
        ∀ s, a.respond.1 = some s → ∃ step pick,
          a.policy.steps = step :: a.respond.2.policy.steps ∧ step.Takes a.page pick ∧
            a.page.selectionFor pick = some s := by
  constructor
  · intro first visited
    obtain ⟨pages, picks, course, _⟩ := play_course visited maxTurns
    obtain ⟨poised, _⟩ := opening_poised visited
    have whole : first.surface.policy.steps = script := by
      -- the first visit does not ask the policy, so the whole script is left after it
      have kept := Conversation.visitRandom_persists
        (P := fun c => c.surface.policy = ScriptedPolicy.mk script) ⟨?_, ?_, ?_⟩
        (c := opening collections entryKeys (ScriptedPolicy.mk script) source) rfl npc
      · rw [visited] at kept
        rw [kept]
      · exact fun _ _ same => same
      · exact fun _ _ same => same
      · exact fun _ _ _ _ _ same => (Conversation.display_automated _ _ _ _ _).2.1.trans same
    refine ⟨pages, picks, course, ?_, ?_, ?_⟩
    · intro j pick picked
      rw [← whole]
      exact course.takes picked
    · intro delivered now moment
      rw [← whole]
      exact ⟨course.delivers moment, moment.steps⟩
    · intro idle
      rw [← whole]
      exact course.waits poised idle
  · intro uses
    refine ⟨Automated.steps_after _ uses, fun s reported => ?_⟩
    obtain ⟨step, pick, next, takes, offered, _⟩ := Automated.reported_takes reported
    exact ⟨step, pick, next, takes, offered⟩

/-- On the hill the second choice is the first that the script accepts, and in the dale its next
step accepts nothing. -/
theorem script_in_order_hill :
    let hill : Key := ⟨"hill"⟩
    let dale : Key := ⟨"dale"⟩
    let nodes := (Graph.empty.insert hill ((Node.fixed "Uphill.").withOffer fun _ =>
      (ChoiceSet.empty.withChoice "Back" (·, [])).withChoice "On" (·, [.jump dale]))).insert dale
      ((Node.fixed "Downhill.").withOffer fun _ => ChoiceSet.empty.withChoice "Rest" (·, []))
    let guide : Npc := ⟨"guide", .empty, nodes⟩
    let script : List ScriptStep := [.choose (· == "On"), .choose (· == "Up")]
    let start := opening .empty [hill] (ScriptedPolicy.mk script) (.ofSeed 0)
    (start.visitRandom guide).1 = .ok () ∧
      (play guide .empty [hill] (ScriptedPolicy.mk script) (.ofSeed 0) 32).1 =
        .ok ⟨["Uphill.", "  > On", "Downhill."], .policyIdle, 1⟩ ∧
      ∃ pages picks, PlaysScript script 32 (start.visitRandom guide).2 guide pages picks
        (.ok .policyIdle) := by
  intro hill dale nodes guide script start
  have begun := opening_single guide .empty hill (ScriptedPolicy.mk script) (.ofSeed 0)
  have shown : (start.visitRandom guide).1 = .ok () := by
    rw [begun]
    decide +kernel
  have visited := visited_of_ok shown
  have played : (play guide .empty [hill] (ScriptedPolicy.mk script) (.ofSeed 0) 32).1 =
      .ok ⟨["Uphill.", "  > On", "Downhill."], .policyIdle, 1⟩ := by
    rw [play_started visited, begun]
    decide +kernel
  obtain ⟨follows, _⟩ := script_in_order guide .empty [hill] script (.ofSeed 0) 32
  have plays := follows (start.visitRandom guide).2 visited
  rw [played] at plays
  exact ⟨shown, played, plays⟩

end Parley.Playthrough
