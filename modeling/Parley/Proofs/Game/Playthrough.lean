import Parley.Game.Playthrough
import Parley.Proofs.Conversation.Automated
import Parley.Proofs.Conversation.Requests

/-!
# Playthroughs

The course of a playthrough (`Course`): the pages that it reads, the picks that get a selection
accepted, each on the page that is shown at its turn, and how it ends. Every playthrough has a
course (`turnsFrom_course`), which is bounded by the number of turns, and its transcript is written
from the course in strict alternation (`Written`). `play_contract` states what follows for whole
playthroughs.
-/

namespace Parley

/-- Why a playthrough can end with a pick that got selected. -/
def PlayOutcome.onPick : PlayOutcome → Bool
  | .stalled | .exhausted => true
  | .deadEnd | .policyIdle | .turnLimit => false

/-- A page is stalled if it has no choices and presents nothing, not even an empty collection. -/
lemma Page.isStalled_iff {p : Page} : p.isStalled = true ↔ p.choices = [] ∧ p.present = none := by
  rw [isStalled, Bool.and_eq_true, List.isEmpty_iff, Option.isNone_iff_eq_none]

/-- A page that offers something is not stalled. -/
lemma Page.not_isStalled {p : Page} {pick s} (offered : p.selectionFor pick = some s) :
    p.isStalled = false := by
  rw [← Bool.not_eq_true, isStalled_iff]
  rintro ⟨unlabelled, nothing⟩
  cases pick with
  | choice index =>
    rw [selectionFor, unlabelled] at offered
    cases offered
  | present index =>
    rw [selectionFor, nothing] at offered
    cases offered

/-- Whatever a page offers has words to describe it. -/
lemma Page.describe_offered {p : Page} {pick s} (offered : p.selectionFor pick = some s) :
    ∃ words, p.describe pick = some words := by
  cases pick with
  | choice index =>
    obtain ⟨entry, found, _⟩ := Option.map_eq_some_iff.1 offered
    refine ⟨entry.1, ?_⟩
    rw [describe, labels, List.getElem?_map, found]
    rfl
  | present index =>
    rw [selectionFor] at offered
    cases presents : p.present with
    | none =>
      rw [presents] at offered
      cases offered
    | some listed =>
      rw [presents] at offered
      obtain ⟨item, found, _⟩ := Option.map_eq_some_iff.1 offered
      refine ⟨"present " ++ item.name, ?_⟩
      rw [describe, items, presents]
      exact congrArg _ found

namespace Playthrough

/-- The transcript of pages and picks: the one text of each page, and under it the words of the
option that was picked there. Only the last page may be without a pick. -/
inductive Written : List Page → List Pick → List String → Prop where
  | last {page text} :
    page.texts = [text] →
    Written [page] [] [text]
  | broken {page pick text words} :
    page.texts = [text] →
    page.describe pick = some words →
    Written [page] [pick] [text, "  > " ++ words]
  | turn {page pages pick picks text words lines} :
    page.texts = [text] →
    page.describe pick = some words →
    Written pages picks lines →
    Written (page :: pages) (pick :: picks) (text :: ("  > " ++ words) :: lines)

/-- Something is always written: at least the text of a page. -/
lemma Written.ne_nil {pages picks lines} (written : Written pages picks lines) : lines ≠ [] := by
  cases written <;> exact nofun

/-- Without a pick on the last page, the transcript ends with its text. -/
lemma Written.getLast? {pages picks lines} (written : Written pages picks lines)
    (unpicked : picks.length < pages.length) {page : Page} {text : String}
    (last : pages.getLast? = some page) (texts : page.texts = [text]) :
    lines.getLast? = some text := by
  induction written with
  | last only =>
    obtain rfl := Option.some.inj last
    rw [List.getLast_singleton, only] at texts
    cases texts
    rfl
  | broken _ _ => exact absurd unpicked (Nat.lt_irrefl 1)
  | @turn _ pages _ picks _ _ lines _ _ later ih =>
    have some_page : pages ≠ [] := by
      cases later <;> exact nofun
    rw [List.getLast?_cons_of_ne_nil some_page] at last
    rw [List.getLast?_cons_cons, List.getLast?_cons_of_ne_nil later.ne_nil]
    exact ih (Nat.lt_of_succ_lt_succ unpicked) last

variable {π : Type} [Policy π]

/-- A conversation after the last pick was taken. -/
def taken (c : Conversation (Automated π)) : Conversation (Automated π) :=
  { c with surface := c.surface.takePick.2 }

/-- The course of the remaining turns of a playthrough: the pages that are shown, the picks that get
a selection accepted, and the end. -/
inductive Course : (remaining : Nat) → Conversation (Automated π) → Npc → List Page → List Pick →
    Except DialogueError PlayOutcome → Prop where
  | limit {c npc} :
    Course 0 c npc [c.surface.page] [] (.ok .turnLimit)
  | declined {remaining c npc} :
    c.surface.respond.1 = none →
    Course (remaining + 1) c npc [c.surface.page] []
      (.ok (if c.surface.page.isStalled then .deadEnd else .policyIdle))
  | stalled {remaining c npc pick c' npc'} :
    c.Selects pick →
    c.handleEvent npc .tick = (.ok (some .stalled), c', npc') →
    Course (remaining + 1) c npc [c.surface.page] [pick] (.ok .stalled)
  | exhausted {remaining c npc pick c' npc'} :
    c.Selects pick →
    c.handleEvent npc .tick = (.error .frontierExhausted, c', npc') →
    Course (remaining + 1) c npc [c.surface.page] [pick] (.ok .exhausted)
  | failed {remaining c npc pick e c' npc'} :
    c.Selects pick →
    c.handleEvent npc .tick = (.error e, c', npc') →
    e.Navigational →
    e ≠ .frontierExhausted →
    Course (remaining + 1) c npc [c.surface.page] [pick] (.error e)
  | moved {remaining c npc pick key c' npc' pages picks result} :
    c.Selects pick →
    c.handleEvent npc .tick = (.ok (some (.presenting key)), c', npc') →
    Course remaining (taken c') npc' pages picks result →
    Course (remaining + 1) c npc (c.surface.page :: pages) (pick :: picks) result

omit [Policy π] in
/-- Taking note of a pick leaves the node waiting as before. -/
lemma taken_poised {c : Conversation (Automated π)} (poised : c.Poised) : (taken c).Poised :=
  ⟨poised.presenting, poised.fresh, poised.shown⟩

/-- After a turn that moved the conversation, and with its pick taken, the next node waits. -/
lemma moved_poised {c c' : Conversation (Automated π)} {npc npc' : Npc} {key : Key}
    (poised : c.Poised)
    (handled : c.handleEvent npc .tick = (.ok (some (.presenting key)), c', npc')) :
    (taken c').Poised := by
  obtain ⟨_, turn⟩ := poised.turn npc
  rw [handled] at turn
  cases turn with
  | moved _ _ next => exact taken_poised next

omit [Policy π] in
/-- The page of a node that waits for a selection has one text. -/
lemma poised_text {c : Conversation (Automated π)} (poised : c.Poised) :
    ∃ text, c.surface.page.texts = [text] := by
  obtain ⟨_, _, shown⟩ := poised.shown
  exact shown.text

/-- What is selected on a page has a line in the transcript. -/
lemma selects_pickLine {c : Conversation (Automated π)} {pick : Pick} (selects : c.Selects pick) :
    ∃ words, c.surface.page.describe pick = some words ∧
      pickLine c.surface.page (some pick) = ["  > " ++ words] := by
  obtain ⟨_, _, offered, _⟩ := selects.accepted
  obtain ⟨words, described⟩ := Page.describe_offered offered
  refine ⟨words, described, ?_⟩
  rw [pickLine, Option.bind_some, described]
  rfl

/-- What a playthrough reports of its course, when `turns` turns were made before. -/
inductive Reports (turns : Nat) (pages : List Page) (picks : List Pick) :
    Except DialogueError PlayOutcome → Except DialogueError Playthrough → Prop where
  | ended {outcome p} :
    p.outcome = outcome →
    Written pages picks p.transcript →
    p.turns + 1 = turns + pages.length →
    Reports turns pages picks (.ok outcome) (.ok p)
  | failed {e} :
    Reports turns pages picks (.error e) (.error e)

/-- A report has the outcome of the course that it is about. -/
lemma Reports.outcome {turns : Nat} {pages : List Page} {picks : List Pick} {result report}
    (reports : Reports turns pages picks result report) : report.map (·.outcome) = result := by
  cases reports with
  | ended outcome _ _ =>
    subst outcome
    rfl
  | failed => rfl

/-- A turn before the others puts its text and its line in front. -/
lemma Reports.cons {turns : Nat} {pages : List Page} {picks : List Pick} {result report}
    (reports : Reports (turns + 1) pages picks result report) {page : Page} {pick : Pick}
    {text words : String} (texts : page.texts = [text])
    (described : page.describe pick = some words) :
    Reports turns (page :: pages) (pick :: picks) result
      (report.map fun p => { p with transcript := text :: ("  > " ++ words) :: p.transcript }) := by
  cases reports with
  | ended outcome written counted =>
    refine .ended outcome (.turn texts described written) ?_
    rw [List.length_cons, ← Nat.add_assoc, Nat.add_right_comm]
    exact counted
  | failed => exact .failed

/-- The remaining turns, from a node that waits for a selection, have a course, of which the
playthrough reports. -/
lemma turnsFrom_course (remaining turns : Nat) {c : Conversation (Automated π)}
    (poised : c.Poised) (untaken : c.surface.lastPick = none) (npc : Npc) :
    ∃ pages picks result, Course remaining c npc pages picks result ∧
      Reports turns pages picks result (turnsFrom remaining turns c npc).1 := by
  -- each turn takes the pick behind its selection, so that the next one starts without a pick
  induction remaining generalizing turns c npc with
  | zero =>
    obtain ⟨text, texts⟩ := poised_text poised
    refine ⟨_, _, _, .limit, .ended rfl ?_ rfl⟩
    rw [texts]
    exact .last texts
  | succ remaining ih =>
    obtain ⟨text, texts⟩ := poised_text poised
    obtain ⟨pick, turn⟩ := poised.turn npc
    rw [turnsFrom]
    generalize handled : c.handleEvent npc .tick = r at turn ⊢
    cases turn with
    | declined silent kept =>
      refine ⟨_, _, _, .declined silent, .ended rfl ?_ rfl⟩
      dsimp only [Automated.takePick]
      rw [kept, untaken, texts]
      exact .last texts
    | stalled selects kept =>
      obtain ⟨words, described, line⟩ := selects_pickLine selects
      refine ⟨_, _, _, .stalled selects handled, .ended rfl ?_ rfl⟩
      dsimp only [Automated.takePick]
      rw [kept, line, texts]
      exact .broken texts described
    | @failed pick e c' npc' selects kept navigational =>
      obtain ⟨words, described, line⟩ := selects_pickLine selects
      by_cases exhausted : e = .frontierExhausted
      · subst exhausted
        refine ⟨_, _, _, .exhausted selects handled, .ended rfl ?_ rfl⟩
        dsimp only [Automated.takePick]
        rw [kept, line, texts]
        exact .broken texts described
      · refine ⟨_, _, _, .failed selects handled navigational exhausted, ?_⟩
        cases navigational with
        | unknownNode key => exact .failed
        | unsupportedCollection kind => exact .failed
        | frontierExhausted => exact absurd rfl exhausted
    | @moved pick key c' npc' selects kept next =>
      obtain ⟨words, described, line⟩ := selects_pickLine selects
      obtain ⟨pages, picks, result, course, reports⟩ :=
        ih (turns + 1) (taken_poised next) rfl npc'
      refine ⟨_, _, _, .moved selects handled course, ?_⟩
      have written := reports.cons texts described
      dsimp only [Automated.takePick]
      rw [kept, line, texts]
      exact written

/-! ## Bounds of a course -/

/-- What a course that comes to an end has to do with the number of turns that it had left. -/
structure Bounded (remaining : Nat) (pages : List Page) (picks : List Pick)
    (outcome : PlayOutcome) : Prop where
  started : pages ≠ []
  pages_le : pages.length ≤ remaining + 1
  picks_le : picks.length ≤ remaining
  picks_eq : picks.length + 1 = pages.length + if outcome.onPick then 1 else 0
  limit_iff : outcome = .turnLimit ↔ pages.length = remaining + 1
  deadEnd_iff : outcome ≠ .turnLimit →
    (outcome = .deadEnd ↔ ∃ page, pages.getLast? = some page ∧ page.isStalled = true)

/-- A course that ends on its first page, not for want of turns. -/
lemma Bounded.single {remaining : Nat} {page : Page} {picks : List Pick} {outcome : PlayOutcome}
    (within : outcome ≠ .turnLimit) (count : picks.length = if outcome.onPick then 1 else 0)
    (deadEnd : outcome = .deadEnd ↔ page.isStalled = true) :
    Bounded (remaining + 1) [page] picks outcome where
  started := nofun
  pages_le := Nat.le_add_left 1 _
  picks_le := by
    rw [count]
    split <;> omega
  picks_eq := by
    rw [count, List.length_singleton, Nat.add_comm]
  limit_iff := by
    rw [List.length_singleton]
    exact ⟨fun limit => absurd limit within, fun impossible => by omega⟩
  deadEnd_iff _ := by
    rw [deadEnd]
    simp

/-- A turn before the others takes one from the number of turns. -/
lemma Bounded.cons {remaining : Nat} {pages : List Page} {picks : List Pick}
    {outcome : PlayOutcome} (bounded : Bounded remaining pages picks outcome) (page : Page)
    (pick : Pick) : Bounded (remaining + 1) (page :: pages) (pick :: picks) outcome where
  started := nofun
  pages_le := Nat.succ_le_succ bounded.pages_le
  picks_le := Nat.succ_le_succ bounded.picks_le
  picks_eq := by
    have count := bounded.picks_eq
    rw [List.length_cons, List.length_cons]
    omega
  limit_iff := by
    rw [bounded.limit_iff, List.length_cons, Nat.succ_inj]
  deadEnd_iff within := by
    rw [bounded.deadEnd_iff within, List.getLast?_cons_of_ne_nil bounded.started]

/-- A course that comes to an end is bounded by the turns that it had left. -/
lemma Course.bounded {remaining c npc pages picks result outcome}
    (course : Course (π := π) remaining c npc pages picks result) (ended : result = .ok outcome) :
    Bounded remaining pages picks outcome := by
  have offers {c : Conversation (Automated π)} {pick} (selects : c.Selects pick) :
      c.surface.page.isStalled = false := by
    obtain ⟨_, _, offered, _⟩ := selects.accepted
    exact Page.not_isStalled offered
  induction course with
  | limit =>
    cases ended
    exact ⟨nofun, Nat.le_refl _, Nat.le_refl _, rfl, ⟨fun _ => rfl, fun _ => rfl⟩,
      fun within => absurd rfl within⟩
  | @declined _ c _ _ =>
    cases ended
    by_cases stalled : c.surface.page.isStalled = true
    · rw [if_pos stalled]
      exact .single nofun rfl ⟨fun _ => stalled, fun _ => rfl⟩
    · rw [if_neg stalled]
      exact .single nofun rfl ⟨nofun, fun empty => absurd empty stalled⟩
  | stalled selects _ =>
    cases ended
    refine .single nofun rfl ⟨nofun, fun stalled => ?_⟩
    rw [offers selects] at stalled
    cases stalled
  | exhausted selects _ =>
    cases ended
    refine .single nofun rfl ⟨nofun, fun stalled => ?_⟩
    rw [offers selects] at stalled
    cases stalled
  | failed _ _ _ _ => cases ended
  | moved _ _ _ ih => exact (ih ended).cons _ _

/-- The errors that end a playthrough. -/
inductive Breaks : DialogueError → Prop where
  | unknownNode (key : Key) : Breaks (.unknownNode key)
  | unsupportedCollection (kind : String) : Breaks (.unsupportedCollection kind)

/-- A course that breaks off does so because of a node. -/
lemma Course.breaks {remaining c npc pages picks result e}
    (course : Course (π := π) remaining c npc pages picks result) (failed : result = .error e) :
    Breaks e := by
  induction course with
  | limit => cases failed
  | declined _ => cases failed
  | stalled _ _ => cases failed
  | exhausted _ _ => cases failed
  | failed _ _ navigational unexhausted =>
    cases failed
    cases navigational with
    | unknownNode key => exact .unknownNode key
    | unsupportedCollection kind => exact .unsupportedCollection kind
    | frontierExhausted => exact absurd rfl unexhausted
  | moved _ _ _ ih => exact ih failed

/-! ## Whole playthroughs -/

/-- A playthrough before its first page. -/
def opening (collections : Collections) (entryKeys : List Key) (policy : π)
    (source : Random.Source) : Conversation (Automated π) :=
  (Conversation.create (Automated.blank policy) collections source).startSession entryKeys

/-- The first page of a playthrough waits for a selection, and nothing was picked yet. -/
lemma opening_poised {npc : Npc} {collections : Collections} {entryKeys : List Key} {policy : π}
    {source : Random.Source} {first : Conversation (Automated π)}
    (visited : (opening collections entryKeys policy source).visitRandom npc = (.ok (), first)) :
    first.Poised ∧ first.surface.lastPick = none := by
  obtain ⟨_, refused⟩ | ⟨_, drawn⟩ :=
    (opening collections entryKeys policy source).visitRandom_inv npc
  · rw [refused] at visited
    cases visited
  have v := (opening collections entryKeys policy source).visitDrawn_inv npc
  rw [drawn] at visited
  generalize (opening collections entryKeys policy source).visitDrawn npc = r at v visited
  cases v with
  | exhausted _ => cases visited
  | failed _ _ _ => cases visited
  | shown _ _ v =>
    cases visited
    refine ⟨v.holds Conversation.showing_poised, ?_⟩
    cases v with
    | shown _ _ _ => exact (Conversation.display_automated _ _ _ _ _).2.2

/-- With a single entry key, a playthrough begins with a visit to it. -/
lemma opening_single (npc : Npc) (collections : Collections) (key : Key) (policy : π)
    (source : Random.Source) :
    (opening collections [key] policy source).visitRandom npc =
      Conversation.visit
        { opening collections [key] policy source with source := (source.draw .double 1).2 }
        npc key := by
  have live : (opening collections [key] policy source).phase ≠ .ended :=
    Conversation.startSession_open _ [key]
  have picked : (opening collections [key] policy source).frontier.pick
      (opening collections [key] policy source).source =
        (some key, (source.draw .double 1).2) :=
    Random.Source.choose_singleton .double key source
  rw [Conversation.visitRandom, if_neg live, Conversation.visitDrawn, Conversation.drawKey, picked]
  dsimp only
  generalize Conversation.visit (σ := Automated π) _ npc key = r
  obtain ⟨result, c⟩ := r
  cases result with
  | ok => rfl
  | error => rfl

/-- A visit that succeeded has nothing else to its result. -/
lemma visited_of_ok {npc : Npc} {c : Conversation (Automated π)}
    (shown : (c.visitRandom npc).1 = .ok ()) :
    c.visitRandom npc = (.ok (), (c.visitRandom npc).2) :=
  (Prod.eta _).symm.trans (congrArg (·, _) shown)

/-- After a first visit that succeeded, a playthrough is its turns. -/
lemma play_started {npc : Npc} {collections : Collections} {entryKeys : List Key} {policy : π}
    {source : Random.Source} {first : Conversation (Automated π)}
    (visited : (opening collections entryKeys policy source).visitRandom npc = (.ok (), first))
    (maxTurns : Nat) :
    play npc collections entryKeys policy source maxTurns = turnsFrom maxTurns 0 first npc := by
  rw [opening] at visited
  simp only [play, visited]

/-- A playthrough that has a page reports of its course. -/
lemma play_course {npc : Npc} {collections : Collections} {entryKeys : List Key} {policy : π}
    {source : Random.Source} {first : Conversation (Automated π)}
    (visited : (opening collections entryKeys policy source).visitRandom npc = (.ok (), first))
    (maxTurns : Nat) :
    let report := (play npc collections entryKeys policy source maxTurns).1
    ∃ pages picks, Course maxTurns first npc pages picks (report.map (·.outcome)) ∧
      Reports 0 pages picks (report.map (·.outcome)) report := by
  obtain ⟨poised, untaken⟩ := opening_poised visited
  obtain ⟨pages, picks, result, course, reports⟩ :=
    turnsFrom_course maxTurns 0 poised untaken npc
  rw [play_started visited]
  dsimp only
  rw [reports.outcome]
  exact ⟨pages, picks, course, reports⟩

/-- The ways in which a playthrough can begin. -/
inductive Begins (npc : Npc) (collections : Collections) (entryKeys : List Key) (policy : π)
    (source : Random.Source) (maxTurns : Nat) : Except DialogueError Playthrough → Prop where
  | nowhere :
    entryKeys = [] →
    Begins npc collections entryKeys policy source maxTurns (.ok ⟨[], .exhausted, 0⟩)
  | failed {key e} :
    entryKeys ≠ [] →
    ((opening collections entryKeys policy source).visitRandom npc).1 = .error e →
    npc.Lacks collections key e →
    Begins npc collections entryKeys policy source maxTurns (.error e)
  | started {first} :
    entryKeys ≠ [] →
    (opening collections entryKeys policy source).visitRandom npc = (.ok (), first) →
    Begins npc collections entryKeys policy source maxTurns (turnsFrom maxTurns 0 first npc).1

/-- A playthrough has no node to show, fails with its first visit, or goes on in turns. -/
lemma play_begins (npc : Npc) (collections : Collections) (entryKeys : List Key) (policy : π)
    (source : Random.Source) (maxTurns : Nat) :
    Begins npc collections entryKeys policy source maxTurns
      (play npc collections entryKeys policy source maxTurns).1 := by
  have live : (opening collections entryKeys policy source).phase ≠ .ended :=
    Conversation.startSession_open _ entryKeys
  obtain ⟨ended, _⟩ | ⟨_, visited⟩ :=
    (opening collections entryKeys policy source).visitRandom_inv npc
  · exact absurd ended live
  have v := (opening collections entryKeys policy source).visitDrawn_inv npc
  generalize (opening collections entryKeys policy source).visitDrawn npc = r at v visited
  cases v with
  | exhausted empty =>
    rw [opening] at visited
    simp only [play, visited]
    exact .nowhere empty
  | failed mem _ v =>
    have some_key : entryKeys ≠ [] := List.ne_nil_of_mem mem
    have first := congrArg Prod.fst visited
    rw [opening] at visited
    simp only [play, visited]
    cases v.lacks live with
    | node missing => exact .failed some_key first (.node missing)
    | collection found offered missing =>
      exact .failed some_key first (.collection found offered missing)
  | shown mem _ _ =>
    rw [play_started visited]
    exact .started (List.ne_nil_of_mem mem) visited

/-- The contract of playthroughs, whatever the policy picks. A playthrough breaks off only because
of a node that is not there or lacks its collection, on its first visit or at the end of a course,
and without entry keys it has no page. Any other playthrough has a course, from which its transcript
is written. It has one page more than turns, and a selection for each turn and for an end on a pick;
it makes at most as many turns and selections as it may. It ends at the limit if and only if it has
made all its turns, and before that in a dead end if and only if the last page offers nothing. -/
theorem play_contract (npc : Npc) (collections : Collections) (entryKeys : List Key) (policy : π)
    (source : Random.Source) (maxTurns : Nat) :
    let result := (play npc collections entryKeys policy source maxTurns).1
    (∀ e, result = .error e → Breaks e ∧
      (((opening collections entryKeys policy source).visitRandom npc).1 = .error e ∨
        ∃ first pages picks,
          (opening collections entryKeys policy source).visitRandom npc = (.ok (), first) ∧
          Course maxTurns first npc pages picks (.error e))) ∧
    (entryKeys = [] → result = .ok ⟨[], .exhausted, 0⟩) ∧
    (entryKeys ≠ [] → ∀ p, result = .ok p → ∃ first pages picks,
      (opening collections entryKeys policy source).visitRandom npc = (.ok (), first) ∧
      Course maxTurns first npc pages picks (.ok p.outcome) ∧
      Written pages picks p.transcript ∧
      pages.length = p.turns + 1 ∧
      picks.length = p.turns + (if p.outcome.onPick then 1 else 0) ∧
      p.turns ≤ maxTurns ∧ picks.length ≤ maxTurns ∧
      (p.outcome = .turnLimit ↔ p.turns = maxTurns) ∧
      (p.turns < maxTurns → (p.outcome = .deadEnd ↔
        ∃ page, pages.getLast? = some page ∧ page.choices = [] ∧ page.present = none))) := by
  intro result
  have begins : Begins npc collections entryKeys policy source maxTurns result :=
    play_begins npc collections entryKeys policy source maxTurns
  generalize result = r at begins
  cases begins with
  | nowhere none_there => exact ⟨nofun, fun _ => rfl, fun some_key => absurd none_there some_key⟩
  | failed some_key first lacks =>
    refine ⟨?_, fun none_there => absurd none_there some_key, fun _ => nofun⟩
    rintro e ⟨⟩
    refine ⟨?_, .inl first⟩
    cases lacks with
    | node _ => exact .unknownNode _
    | collection _ _ _ => exact .unsupportedCollection _
  | @started first some_key visited =>
    obtain ⟨poised, untaken⟩ := opening_poised visited
    obtain ⟨pages, picks, outcome, course, reports⟩ :=
      turnsFrom_course maxTurns 0 poised untaken npc
    generalize (turnsFrom maxTurns 0 first npc).1 = report at reports
    refine ⟨?_, fun none_there => absurd none_there some_key, fun _ => ?_⟩
    · rintro e rfl
      cases reports with
      | failed => exact ⟨course.breaks rfl, .inr ⟨first, pages, picks, visited, course⟩⟩
    · rintro p rfl
      cases reports with
      | ended ends written counted =>
        subst ends
        obtain ⟨_, pages_le, picks_le, picks_eq, limit_iff, deadEnd_iff⟩ := course.bounded rfl
        refine ⟨first, pages, picks, visited, course, written, by omega, by omega, by omega,
          picks_le, ?_, ?_⟩
        · rw [limit_iff]
          omega
        · intro within
          have unlimited : p.outcome ≠ .turnLimit := fun limit => by
            have all := limit_iff.1 limit
            omega
          simp only [deadEnd_iff unlimited, Page.isStalled_iff]

end Playthrough

end Parley
