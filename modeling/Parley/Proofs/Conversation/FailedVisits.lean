import Parley.Proofs.Conversation.History
import Parley.Surface.Terminal

/-!
# Visits that fail

A visit takes the key out of the frontier before it is known whether the node can be shown, and
whether its items can be collected is known only after its words were drawn. All the same a visit
that fails leaves no trace but in the source of random numbers (`Undisturbed`): the key is back at
its place, and the episode before goes on with its page and its selections. `failed_visit_undone`
says so for visits and for random visits, and tells what was drawn until they failed.
-/

namespace Parley.Conversation

variable {σ : Type}

/-- All but the source of random numbers is as it was. -/
structure Undisturbed (c c' : Conversation σ) : Prop where
  frontier : c'.frontier = c.frontier
  phase : c'.phase = c.phase
  episode : c'.episode = c.episode
  episodesStarted : c'.episodesStarted = c.episodesStarted
  surface : c'.surface = c.surface
  collections : c'.collections = c.collections
  /-- What could be selected can still be selected, with the same action behind it. -/
  accept : ∀ s, c'.accept s = c.accept s

/-- Drawing random numbers disturbs nothing. -/
lemma undisturbed (c : Conversation σ) (source : Random.Source) :
    c.Undisturbed { c with source } :=
  ⟨rfl, rfl, rfl, rfl, rfl, rfl, fun _ => rfl⟩

variable [Surface σ]

/-- The errors of a visit. Random numbers are spent only on the words of a node that cannot be shown
for want of a collection. -/
lemma Visit.error_cases {c c' : Conversation σ} {npc key e}
    (v : Visit c npc key (.error e, c')) :
    (e = .sessionEnded ∨ e = .unknownNode key) ∧ c'.source = c.source ∨
      ∃ node p, npc.graph.get? key = some node ∧ (node.offer npc.speaker).presentation = some p ∧
        e = .unsupportedCollection p.collection ∧
        c'.source = (node.utter npc.speaker c.source).2 := by
  cases v with
  | ended _ => exact .inl ⟨.inl rfl, rfl⟩
  | unknown _ _ => exact .inl ⟨.inr rfl, rfl⟩
  | unsupported _ found offered _ => exact .inr ⟨_, _, found, offered, rfl, rfl⟩

/-- A random visit fails for want of keys, or because the visit to the key that was drawn fails. -/
lemma visitDrawn_error {c c' : Conversation σ} {npc : Npc} {e : DialogueError}
    (failed : c.visitDrawn npc = (.error e, c')) :
    (e = .frontierExhausted ∧ c'.source = c.source) ∨
      ∃ key source, c.frontier.pick c.source = (some key, source) ∧
        { c with source }.visit npc key = (.error e, c') := by
  have drawing := c.drawKey_inv
  rw [visitDrawn] at failed
  generalize c.drawKey = r at drawing failed
  cases drawing with
  | exhausted _ =>
    cases failed
    exact .inl ⟨rfl, rfl⟩
  | @drawn key source _ picked =>
    refine .inr ⟨key, source, picked, ?_⟩
    -- a random visit only adds the key to the result, so both fail alike
    dsimp only at failed
    generalize { c with source }.visit npc key = r at failed ⊢
    obtain ⟨result, after⟩ := r
    cases result with
    | ok => cases failed
    | error e' =>
      cases failed
      rfl

/-- A random visit from outside fails because the session is over, or as a random visit does. -/
lemma visitRandom_error {c : Conversation σ} {npc : Npc} {e : DialogueError}
    (failed : (c.visitRandom npc).1 = .error e) :
    (e = .sessionEnded ∧ (c.visitRandom npc).2 = c) ∨
      c.visitDrawn npc = (.error e, (c.visitRandom npc).2) := by
  obtain ⟨_, refused⟩ | ⟨_, drawn⟩ := c.visitRandom_inv npc
  · rw [refused] at failed ⊢
    cases failed
    exact .inl ⟨rfl, rfl⟩
  · rw [drawn] at failed ⊢
    generalize c.visitDrawn npc = r at failed ⊢
    obtain ⟨result, after⟩ := r
    cases result with
    | ok key => cases failed
    | error e' =>
      cases failed
      exact .inr rfl

/-- A visit that fails disturbs nothing, whatever the frontier, the node and the episode before: at
most the words of the node were drawn. Neither does a random visit that fails, except for the draw
of the key that is then visited. -/
theorem failed_visit_undone (c : Conversation σ) (npc : Npc) (e : DialogueError) :
    (∀ key, (c.visit npc key).1 = .error e →
      let c' := (c.visit npc key).2
      c.Undisturbed c' ∧
      ((e = .sessionEnded ∨ e = .unknownNode key) ∧ c'.source = c.source ∨
        ∃ node p, npc.graph.get? key = some node ∧
          (node.offer npc.speaker).presentation = some p ∧
          e = .unsupportedCollection p.collection ∧
          c'.source = (node.utter npc.speaker c.source).2)) ∧
    ((c.visitRandom npc).1 = .error e →
      let c' := (c.visitRandom npc).2
      c.Undisturbed c' ∧
      ((e = .sessionEnded ∨ e = .frontierExhausted) ∧ c'.source = c.source ∨
        ∃ key source, c.frontier.pick c.source = (some key, source) ∧
          { c with source }.visit npc key = (.error e, c'))) := by
  constructor
  · intro key failed c'
    have v : Visit c npc key (.error e, c') := by
      rw [← failed]
      exact c.visit_inv npc key
    obtain ⟨source, same⟩ := v.error_eq
    refine ⟨?_, v.error_cases⟩
    rw [same]
    exact c.undisturbed source
  · intro failed c'
    obtain ⟨rfl, same⟩ | failed := visitRandom_error failed
    · have same : c' = c := same
      rw [same]
      exact ⟨c.undisturbed c.source, .inl ⟨.inl rfl, rfl⟩⟩
    · have v : VisitDrawn c npc (.error e, c') := by
        rw [← failed]
        exact c.visitDrawn_inv npc
      obtain ⟨source, same⟩ := v.error_eq
      refine ⟨?_, ?_⟩
      · rw [same]
        exact c.undisturbed source
      · obtain ⟨exhausted, kept⟩ | picked := visitDrawn_error failed
        · exact .inl ⟨.inr exhausted, kept⟩
        · exact .inr picked

omit [Surface σ] in
/-- The shop cannot be shown, since nobody has the wares. Between two other keys it stays twice in
the frontier at its places, and the choice of the node on the terminal can still be made. -/
theorem failed_visit_undone_shop :
    let hill : Key := ⟨"hill"⟩
    let shop : Key := ⟨"shop"⟩
    let dale : Key := ⟨"dale"⟩
    let guide : Npc := ⟨"guide", .empty, Graph.empty
      |>.insert hill ((Node.fixed "Uphill.").withOffer fun _ =>
        ChoiceSet.empty.withChoice "On" fun state => (state, [.jump dale]))
      |>.insert shop ((Node.fixed "Come in.").withOffer fun _ =>
        ChoiceSet.empty.withPresentation "wares" fun _ state => (state, []))⟩
    let c := (create Terminal.blank .empty (.ofSeed 0)).run
      [.startSession [dale, shop, hill, shop], .ask guide (.visit hill)]
    (c.visit guide shop).1 = .error (.unsupportedCollection "wares") ∧
      c.Undisturbed (c.visit guide shop).2 ∧
      (c.visit guide shop).2.frontier = ⟨[dale, shop, shop]⟩ ∧
      ∃ action, (c.visit guide shop).2.accept (.choice ⟨1, 0⟩) = .ok action := by
  have undisturbed {c : Conversation Terminal} {npc key e}
      (failed : (c.visit npc key).1 = .error e) : c.Undisturbed (c.visit npc key).2 :=
    ((failed_visit_undone c npc e).1 key failed).1
  exact ⟨rfl, undisturbed (by rfl), rfl, _, rfl⟩

end Parley.Conversation
