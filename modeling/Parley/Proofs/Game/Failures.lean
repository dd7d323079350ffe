import Parley.Game.Layers
import Parley.Proofs.Conversation.Ended
import Parley.Proofs.Game.Host

/-!
# Failing layers

Whatever layers a stack is made of, an event that the top layer fails to take (`LayerStack.Fails`)
costs that layer alone. A notice takes its place, and the session ends (`LayerStack.Surfaced`),
however far the layer had got: the notice names the one that was being talked to when the layer gave
up, and of what the layer had shown by then nothing is left.
-/

namespace Parley

namespace LayerStack

section

variable {L C ε : Type} [Layer L C ε] {s : LayerStack L} {context after : C} {event : InputEvent}
  {below : List L} {e : ε}

/-- The top layer, with the layers `below` under it, fails to take the event; it leaves the context
as `after`. -/
def Fails (s : LayerStack L) (context : C) (event : InputEvent) (below : List L) (e : ε)
    (after : C) : Prop :=
  ∃ top top', s.layers = top :: below ∧ Layer.handle top context event = (.error e, top', after)

/-- A layer that fails is removed. -/
lemma Fails.dispatch_eq (fails : s.Fails context event below e after) :
    s.dispatch context event = (.error e, ⟨below⟩, after) := by
  obtain ⟨top, top', layers, handled⟩ := fails
  rw [dispatch, layers]
  dsimp only
  rw [handled]

/-- A dispatch fails for no other reason than its top layer. -/
lemma fails_of_dispatch (failed : (s.dispatch context event).1 = .error e) :
    ∃ below after, s.Fails context event below e after := by
  obtain ⟨_ | ⟨top, below⟩⟩ := s
  · cases failed
  · rw [dispatch] at failed
    dsimp only at failed
    cases handled : Layer.handle top context event with
    | mk result rest =>
      rw [handled] at failed
      cases result with
      | ok flow => cases failed
      | error e' =>
        cases failed
        exact ⟨below, rest.2, top, rest.1, rfl, handled⟩

end

variable {L : Type} [Layer L Host DialogueError] {s : LayerStack L} {h failed : Host}
  {event : InputEvent} {below : List L} {e : DialogueError}

/-- The failure of the top layer with `e`, which left the host as `failed`, surfaced as one notice
over the layers `below`, and ended the session. -/
structure Surfaced (notice : String → L) (s : LayerStack L) (below : List L) (e : DialogueError)
    (failed : Host) (r : Dispatch × LayerStack L × Host) : Prop where
  handled : r.1 = .handled
  layers : r.2.1.layers = notice (failed.describe e) :: below
  depth : r.2.1.depth = s.depth
  /-- The notice names the one that was being talked to. -/
  faced : ∀ name, failed.Faces name → failed.describe e = brokenOff name e
  /-- Nobody is named only if there was nobody. -/
  alone : (∀ name, ¬ failed.Faces name) → failed.describe e = brokenOff "nobody" e
  rests : r.2.2.Rests
  npcs : r.2.2.npcs = failed.npcs
  entryKeys : r.2.2.entryKeys = failed.entryKeys
  /-- The session that the layer left behind is over, and shows nothing. -/
  inert : failed.conversation.Inert r.2.2.conversation

/-- After a failure the stack is the one without the layer, under a notice, and the host is what the
layer made of it, without its conversation. -/
lemma Fails.step_eq (fails : s.Fails h event below e failed) (notice : String → L) :
    s.step notice h event = (.handled, ⟨notice (failed.describe e) :: below⟩, failed.leave) := by
  rw [step, fails.dispatch_eq]
  rfl

/-- A layer that fails is removed, and its failure is noticed once. -/
lemma Fails.surfaced (fails : s.Fails h event below e failed) (notice : String → L) :
    s.Surfaced notice below e failed (s.step notice h event) := by
  rw [fails.step_eq notice]
  obtain ⟨_, _, layers, _⟩ := fails
  exact {
    handled := rfl
    layers := rfl
    depth := by
      rw [depth, depth, layers]
      rfl
    faced := fun _ faces => faces.describe_eq e
    alone := fun nobody => by rw [Host.describe_eq, Host.partner_of_not_faces nobody]
    rests := failed.leave_rests
    npcs := rfl
    entryKeys := rfl
    inert := failed.conversation.endSession_closed.inert }

/-- A step of a stack whose top layer does not fail is a dispatch. -/
lemma step_eq_dispatch (sound : ∀ below e failed, ¬ s.Fails h event below e failed)
    (notice : String → L) :
    s.dispatch h event = (.ok (s.step notice h event).1, (s.step notice h event).2) := by
  rw [step]
  cases dispatched : s.dispatch h event with
  | mk result rest =>
    cases result with
    | ok _ => rfl
    | error e =>
      -- only a layer on top can make a dispatch fail
      obtain ⟨below, failed, fails⟩ := fails_of_dispatch (congrArg Prod.fst dispatched)
      exact absurd fails (sound below e failed)

/-- Of the layers of the game only conversations fail. -/
lemma Fails.conversation {s : LayerStack GameLayer} {below : List GameLayer}
    (fails : s.Fails h event below e failed) :
    ∃ index, s.layers = .conversation index :: below := by
  obtain ⟨top, _, layers, handled⟩ := fails
  cases top with
  | menu => cases handled
  | conversation index => exact ⟨index, layers⟩
  | notice _ _ => cases handled

/-- Whatever the layers of a stack are, however the host stands, and whatever the event is: if the
top layer fails, one notice stands in its place over the other layers, put into words for the one
that was being talked to at the failure, and the session is over; if it does not fail, or if there
is none, the step is the dispatch. -/
theorem failures_surface (notice : String → L) (s : LayerStack L) (h : Host) (event : InputEvent) :
    (∀ below e failed, s.Fails h event below e failed →
      s.Surfaced notice below e failed (s.step notice h event)) ∧
    ((∀ below e failed, ¬ s.Fails h event below e failed) →
      s.dispatch h event = (.ok (s.step notice h event).1, (s.step notice h event).2)) :=
  ⟨fun _ _ _ fails => fails.surfaced notice, fun sound => step_eq_dispatch sound notice⟩

/-- The guard opens the gate to a yard, and goes on to a cellar that is not there. The yard is shown
when the conversation fails; what is left is a notice that names the guard, over the notice and the
menu below. With these two alone on the stack the same event is only dispatched. -/
theorem failures_surface_gate :
    let gate : Key := ⟨"gate"⟩
    let yard : Key := ⟨"yard"⟩
    let cellar : Key := ⟨"cellar"⟩
    let guard : Npc := ⟨"guard", .empty, Graph.empty
      |>.insert yard (Node.fixed "A yard.")
      |>.insert gate ((Node.fixed "Well?").withOffer fun _ =>
        ChoiceSet.empty.withChoice "On" fun state => (state, [.jump yard, .jump cellar]))⟩
    let c := (((Conversation.create Terminal.blank .empty (.ofSeed 0)).startSession [gate]).visit
      guard gate).2
    let h : Host := ⟨[guard], [gate], c, some 0⟩
    let below : List GameLayer := [.notice "Mind the step." true, .menu]
    let s : LayerStack GameLayer := ⟨.conversation 0 :: below⟩
    let failed := (h.converse 0 (.number 1)).2
    let r := s.step GameLayer.freshNotice h (.number 1)
    let notices : LayerStack GameLayer := ⟨below⟩
    failed.conversation.currentKey = some yard ∧
      s.Fails h (.number 1) below (.unknownNode cellar) failed ∧
      s.Surfaced GameLayer.freshNotice below (.unknownNode cellar) failed r ∧
      failed.describe (.unknownNode cellar) = brokenOff "guard" (.unknownNode cellar) ∧
      (∀ below e failed, ¬ notices.Fails h (.number 1) below e failed) ∧
      notices.dispatch h (.number 1) =
        (.ok (notices.step GameLayer.freshNotice h (.number 1)).1,
          (notices.step GameLayer.freshNotice h (.number 1)).2) := by
  have sound {message shown rest h below e failed} : ¬ Fails
      (⟨.notice message shown :: rest⟩ : LayerStack GameLayer) h (.number 1) below e failed := by
    intro fails
    obtain ⟨_, layers⟩ := fails.conversation
    cases layers
  exact ⟨rfl, ⟨_, .conversation 0, rfl, rfl⟩,
    (failures_surface GameLayer.freshNotice _ _ _).1 _ _ _ ⟨_, .conversation 0, rfl, rfl⟩,
    rfl, fun _ _ _ => sound, (failures_surface GameLayer.freshNotice _ _ _).2 fun _ _ _ => sound⟩

end LayerStack

end Parley
