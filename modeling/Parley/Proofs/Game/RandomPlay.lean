import Parley.Proofs.Conversation.Offers
import Parley.Proofs.Game.Playthrough
import Parley.Proofs.Surface.RandomPolicy

/-!
# Random playthroughs

A random policy picks whenever there is something to pick. So a random playthrough that stops
without a selection, and not for want of turns, stops on a page without choices and without items
(`Course.outOfOptions`). Such a page may still present a collection that has no items. It is the
only kind of page on which a random playthrough turns idle instead of ending in a dead end
(`random_play_stops`), and since every page takes its items from the collections of the host
(`Course.stocked`), that takes an empty collection.
-/

namespace Parley

namespace Conversation

variable {σ : Type} [Surface σ] {collections : Collections}

/-- The items on the page are those of a collection of the host. -/
structure Stocked (collections : Collections) (c : Conversation σ) : Prop where
  host : c.collections = collections
  listed : ∀ items handle, (Surface.page c.surface).present = some (items, handle) →
    ∃ kind, collections.resolve? kind = some items

variable [LawfulSurface σ]

/-- Every step takes the items that it shows from the collections of the host. -/
lemma Stocked.step {c c' : Conversation σ} {mark : Mark} (stocked : Stocked collections c)
    (st : Step mark c c') : Stocked collections c' := by
  obtain ⟨host, listed⟩ := stocked
  cases st with
  | started _ => exact ⟨host, listed⟩
  | accepted _ => exact ⟨host, listed⟩
  | failed _ _ => exact ⟨host, listed⟩
  | restarted _ => exact ⟨host, listed⟩
  | ended =>
    refine ⟨host, fun items handle presents => ?_⟩
    change (Surface.page (Surface.reset c.surface)).present = _ at presents
    rw [LawfulSurface.page_reset] at presents
    cases presents
  | heard event =>
    refine ⟨host, fun items handle presents => ?_⟩
    change (Surface.page (Surface.respond c.surface event).2).present = _ at presents
    rw [LawfulSurface.page_respond] at presents
    exact listed items handle presents
  | @shown _ npc key node found _ source _ _ _ collected =>
    refine ⟨host, fun items handle presents => ?_⟩
    change (Surface.page (display _ _ _ _ _)).present = _ at presents
    rw [page_display] at presents
    cases found with
    | none => cases presents
    | some found =>
      obtain ⟨shown, action⟩ := found
      cases presents
      -- the items were looked up under the kind that the node names
      obtain ⟨p, _, resolved, _⟩ := collect_some collected
      rw [host] at resolved
      exact ⟨p.collection, resolved⟩

/-- So does every call. -/
lemma Stocked.perform {c : Conversation σ} (stocked : Stocked collections c) (npc : Npc)
    (call : Call) : Stocked collections (call.perform c npc).2.1 :=
  (c.perform_trace npc call).preserves (P := fun _ => Stocked collections)
    (fun stocked st => stocked.step st) stocked

end Conversation

namespace Playthrough

variable {π : Type} [Policy π]

open Conversation (Stocked)

/-- All items that can be presented in the course of a playthrough are those of a collection. -/
lemma Course.stocked {collections : Collections} {remaining c npc pages picks result}
    (course : Course (π := π) remaining c npc pages picks result)
    (stocked : Stocked collections c) {page : Page} (mem : page ∈ pages) {items handle}
    (presents : page.present = some (items, handle)) :
    ∃ kind, collections.resolve? kind = some items := by
  have first {c : Conversation (Automated π)} (stocked : Stocked collections c)
      (mem : page ∈ [c.surface.page]) : ∃ kind, collections.resolve? kind = some items := by
    rw [List.mem_singleton.1 mem] at presents
    exact stocked.listed items handle presents
  induction course with
  | limit => exact first stocked mem
  | declined _ => exact first stocked mem
  | stalled _ _ => exact first stocked mem
  | exhausted _ _ => exact first stocked mem
  | failed _ _ _ _ => exact first stocked mem
  | @moved _ c npc _ _ _ _ _ _ _ _ handled _ ih =>
    obtain rfl | later := List.mem_cons.1 mem
    · exact first stocked (List.mem_singleton.2 rfl)
    · have next := stocked.perform npc (.handleEvent .tick)
      rw [Conversation.Call.perform, handled] at next
      exact ih ⟨next.host, next.listed⟩ later

/-- A page without options, and the end of a playthrough that it makes: a dead end, unless there is
a collection to present that has no items. -/
structure OutOfOptions (page : Page) (outcome : PlayOutcome) : Prop where
  choices : page.choices = []
  items : page.items = []
  deadEnd_iff : outcome = .deadEnd ↔ page.present = none
  policyIdle_iff : outcome = .policyIdle ↔ ∃ handle, page.present = some ([], handle)

/-- A page without options ends a playthrough in one of two ways. -/
lemma outOfOptions {page : Page} (choices : page.choices = []) (items : page.items = []) :
    OutOfOptions page (if page.isStalled then .deadEnd else .policyIdle) := by
  cases presents : page.present with
  | none =>
    rw [if_pos (Page.isStalled_iff.2 ⟨choices, presents⟩)]
    refine ⟨choices, items, ⟨fun _ => presents, fun _ => rfl⟩, ?_⟩
    rw [presents]
    exact ⟨nofun, nofun⟩
  | some listed =>
    obtain ⟨found, handle⟩ := listed
    have unstalled : ¬ page.isStalled = true := by
      rw [Page.isStalled_iff, presents]
      exact nofun
    have empty : page.present = some ([], handle) := by
      rw [← items, Page.items_of_present presents]
      exact presents
    rw [if_neg unstalled]
    refine ⟨choices, items, ?_, ⟨fun _ => ⟨handle, empty⟩, fun _ => rfl⟩⟩
    rw [presents]
    exact ⟨nofun, nofun⟩

/-- A course of random picks that ends without a pick, and not for want of turns, ends on a page
without options. -/
lemma Course.outOfOptions {remaining c npc pages picks result outcome}
    (course : Course (π := RandomPolicy) remaining c npc pages picks result) (poised : c.Poised)
    (ended : result = .ok outcome) (unpicked : outcome.onPick = false)
    (within : outcome ≠ .turnLimit) :
    ∃ page, pages.getLast? = some page ∧ OutOfOptions page outcome := by
  induction course with
  | limit =>
    cases ended
    exact absurd rfl within
  | @declined _ c npc silent =>
    cases ended
    obtain spent | ⟨choices, items⟩ := c.surface.thrifty.silent_iff.1 silent
    · rw [poised.fresh] at spent
      cases spent
    · exact ⟨_, rfl, Playthrough.outOfOptions choices items⟩
  | stalled _ _ =>
    cases ended
    cases unpicked
  | exhausted _ _ =>
    cases ended
    cases unpicked
  | failed _ _ _ _ => cases ended
  | moved _ handled course ih =>
    obtain ⟨page, last, out⟩ := ih (moved_poised poised handled) ended
    refine ⟨page, ?_, out⟩
    rw [List.getLast?_cons_of_ne_nil (course.bounded ended).started]
    exact last

/-- A playthrough begins without anything on its page. -/
lemma opening_stocked {npc : Npc} {collections : Collections} {entryKeys : List Key} {policy : π}
    {source : Random.Source} {first : Conversation (Automated π)}
    (visited : (opening collections entryKeys policy source).visitRandom npc = (.ok (), first)) :
    Stocked collections first := by
  have blank : Stocked collections (opening collections entryKeys policy source) := ⟨rfl, nofun⟩
  have next := blank.perform npc .visitRandom
  rw [Conversation.Call.perform, visited] at next
  exact next

/-- A random playthrough that stops without a selection before its turns are made stops on a page
with neither a choice nor an item. It ends in a dead end then, unless the page presents a collection
that has no items; only in that case it turns idle. So a random playthrough never turns idle where
no collection of the host is empty. -/
theorem random_play_stops (npc : Npc) (collections : Collections) (entryKeys : List Key)
    (policy : RandomPolicy) (source : Random.Source) (maxTurns : Nat) :
    let result := (play npc collections entryKeys policy source maxTurns).1
    (∀ first, (opening collections entryKeys policy source).visitRandom npc = (.ok (), first) →
      ∃ pages picks, Course maxTurns first npc pages picks (result.map (·.outcome)) ∧
        ∀ p, result = .ok p → p.turns < maxTurns → picks.length < pages.length →
          ∃ page, pages.getLast? = some page ∧ OutOfOptions page p.outcome) ∧
    ∀ p, result = .ok p → p.outcome = .policyIdle → ∃ kind, collections.resolve? kind = some [] := by
  intro result
  constructor
  · intro first visited
    obtain ⟨poised, _⟩ := opening_poised visited
    obtain ⟨pages, picks, course, reports⟩ : ∃ pages picks,
        Course maxTurns first npc pages picks (result.map (·.outcome)) ∧
          Reports 0 pages picks (result.map (·.outcome)) result := play_course visited maxTurns
    refine ⟨pages, picks, course, fun p ended within unpicked => ?_⟩
    rw [ended] at course reports
    have bounded := course.bounded rfl
    cases reports with
    | ended _ _ counted =>
      -- a page without a pick rules out the ends on a pick, and turns that are left the limit
      refine course.outOfOptions poised rfl ?_ ?_
      · have count := bounded.picks_eq
        cases onPick : p.outcome.onPick with
        | false => rfl
        | true =>
          rw [onPick, if_pos rfl] at count
          omega
      · intro limit
        have all := bounded.limit_iff.1 limit
        omega
  · intro p ended idle
    have begins : Begins npc collections entryKeys policy source maxTurns result :=
      play_begins npc collections entryKeys policy source maxTurns
    generalize result = r at begins ended
    cases begins with
    | nowhere _ =>
      cases ended
      cases idle
    | failed _ _ => cases ended
    | @started first _ visited =>
      obtain ⟨poised, _⟩ := opening_poised visited
      obtain ⟨pages, picks, course, _⟩ := play_course visited maxTurns
      rw [play_started visited, ended] at course
      change Course maxTurns first npc pages picks (.ok p.outcome) at course
      rw [idle] at course
      obtain ⟨page, last, out⟩ := course.outOfOptions poised rfl rfl nofun
      obtain ⟨handle, presents⟩ := out.policyIdle_iff.1 rfl
      exact course.stocked (opening_stocked visited) (List.mem_of_getLast? last) presents

/-- In the yard there is nothing to pick, and a random playthrough ends there in a dead end. -/
theorem random_play_stops_yard :
    let yard : Key := ⟨"yard"⟩
    let guide : Npc := ⟨"guide", .empty, Graph.empty.insert yard (Node.fixed "Nobody is here.")⟩
    let start := opening .empty [yard] (RandomPolicy.ofSeed 0) (.ofSeed 0)
    (start.visitRandom guide).1 = .ok () ∧
      (play guide .empty [yard] (RandomPolicy.ofSeed 0) (.ofSeed 0) 32).1 =
        .ok ⟨["Nobody is here."], .deadEnd, 0⟩ ∧
      ∃ pages picks, Course 32 (start.visitRandom guide).2 guide pages picks (.ok .deadEnd) ∧
        (picks.length < pages.length →
          ∃ page, pages.getLast? = some page ∧ OutOfOptions page .deadEnd) := by
  intro yard guide start
  have begun := opening_single guide .empty yard (RandomPolicy.ofSeed 0) (.ofSeed 0)
  have shown : (start.visitRandom guide).1 = .ok () := by
    rw [begun]
    decide +kernel
  have visited := visited_of_ok shown
  have played : (play guide .empty [yard] (RandomPolicy.ofSeed 0) (.ofSeed 0) 32).1 =
      .ok ⟨["Nobody is here."], .deadEnd, 0⟩ := by
    rw [play_started visited, begun]
    decide +kernel
  obtain ⟨stops, _⟩ := random_play_stops guide .empty [yard] (RandomPolicy.ofSeed 0) (.ofSeed 0) 32
  obtain ⟨pages, picks, course, last⟩ := stops (start.visitRandom guide).2 visited
  rw [played] at course last
  exact ⟨shown, played, pages, picks, course, last _ rfl (by decide)⟩

/-- A random playthrough does turn idle although it declines nothing, on a page that presents a
collection without items. -/
theorem empty_collection_turns_idle :
    ¬ ∀ npc collections entryKeys seed source maxTurns p,
      (play npc collections entryKeys (RandomPolicy.ofSeed seed) source maxTurns).1 = .ok p →
        p.outcome ≠ .policyIdle := by
  intro never
  let shop : Key := ⟨"shop"⟩
  let smith : Npc := ⟨"smith", .empty, Graph.empty.insert shop
    ((Node.fixed "Show me something.").withOffer fun _ =>
      ChoiceSet.empty.withPresentation "things" fun _ s => (s, []))⟩
  let things : Collections := Collections.empty.register "things" []
  let start := opening things [shop] (RandomPolicy.ofSeed 0) (.ofSeed 0)
  have begun := opening_single smith things shop (RandomPolicy.ofSeed 0) (.ofSeed 0)
  have shown : (start.visitRandom smith).1 = .ok () := by
    rw [begun]
    decide +kernel
  have visited := visited_of_ok shown
  have played : (play smith things [shop] (RandomPolicy.ofSeed 0) (.ofSeed 0) 32).1 =
      .ok ⟨["Show me something."], .policyIdle, 0⟩ := by
    rw [play_started visited, begun]
    decide +kernel
  exact never _ _ _ _ _ _ _ played rfl

end Playthrough

end Parley
