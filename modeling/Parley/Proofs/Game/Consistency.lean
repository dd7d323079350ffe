import Parley.Game.Interactive
import Parley.Proofs.Game.Host

/-!
# Consistency of games

Stack, host, conversation and terminal of a game stay in step: the stack is the menu, alone or under
one conversation or one notice (`Settled`), and a conversation lies on top exactly while a node of
it waits for a selection. `Advance` are the ways in which a settled game can go on after an event,
and `Noticed` are the occasions of the notices among them. `run_consistent` says what follows for
every game that was played from the start.
-/

namespace Parley.Game

/-- The game after some events. -/
def run (g : Game) (events : List InputEvent) : Game :=
  events.foldl (fun g event => (g.step event).2) g

/-- The menu alone or under a notice while the host rests, or under the conversation that it has. -/
inductive Settled : Game → Prop where
  | menu {h : Host} :
    h.Rests →
    Settled ⟨⟨[.menu]⟩, h⟩
  | notice {h : Host} {message shown} :
    h.Rests →
    Settled ⟨⟨[.notice message shown, .menu]⟩, h⟩
  | talking {h : Host} {index} :
    h.Talks index →
    Settled ⟨⟨[.conversation index, .menu]⟩, h⟩

/-- The occasions of notices, with their wording: the name in it is that of the character at the
position of the conversation, which the host faces when it makes the notice. -/
inductive Noticed : Game → InputEvent → String → Prop where
  /-- The player left the conversation. -/
  | left {h : Host} {index name} :
    h.names[index]? = some name →
    h.Faces name →
    Noticed ⟨⟨[.conversation index, .menu]⟩, h⟩ (.key 'l') ("You walk away from " ++ name ++ ".")
  /-- An action made no move. -/
  | silent {h : Host} {index name event} :
    h.names[index]? = some name →
    (h.converse index event).1 = .ok (some .stalled) →
    (h.converse index event).2.Faces name →
    Noticed ⟨⟨[.conversation index, .menu]⟩, h⟩ event (name ++ " falls silent.")
  /-- The conversation failed. -/
  | broken {h : Host} {index name event e} :
    h.names[index]? = some name →
    (h.converse index event).1 = .error e →
    (h.converse index event).2.Faces name →
    Noticed ⟨⟨[.conversation index, .menu]⟩, h⟩ event (brokenOff name e)
  /-- The conversation could not be started. -/
  | unstarted {h : Host} {index name e} :
    h.names[index]? = some name →
    (h.talkTo index).1 = .error e →
    (h.talkTo index).2.Faces name →
    Noticed ⟨⟨[.menu]⟩, h⟩ (.number (index + 1)) (brokenOff name e)

/-- The ways in which a game can go on after an event. -/
inductive Advance : Game → InputEvent → Dispatch × Game → Prop where
  | ignored {g : Game} {event} :
    (g.stack.layers = [.menu] → event ≠ .key 'q') →
    Advance g event (.handled, g)
  | quit {h : Host} :
    Advance ⟨⟨[.menu]⟩, h⟩ (.key 'q') (.quit, ⟨⟨[.menu]⟩, h⟩)
  | dismissed {h : Host} {message shown} :
    Advance ⟨⟨[.notice message shown, .menu]⟩, h⟩ .confirm (.handled, ⟨⟨[.menu]⟩, h⟩)
  | started {h h' : Host} {index} :
    h'.Talks index →
    h'.names = h.names →
    Advance ⟨⟨[.menu]⟩, h⟩ (.number (index + 1))
      (.handled, ⟨⟨[.conversation index, .menu]⟩, h'⟩)
  | continued {h h' : Host} {index event} :
    h'.Talks index →
    h'.names = h.names →
    Advance ⟨⟨[.conversation index, .menu]⟩, h⟩ event
      (.handled, ⟨⟨[.conversation index, .menu]⟩, h'⟩)
  | noticed {g : Game} {h' : Host} {event message} :
    Noticed g event message →
    h'.names = g.host.names →
    Advance g event (.handled, ⟨⟨[.freshNotice message, .menu]⟩, h'.leave⟩)

/-! ## Steps -/

/-- An event on the menu. -/
lemma step_menu (h : Host) (event : InputEvent) :
    step ⟨⟨[.menu]⟩, h⟩ event =
      ((LayerStack.follow .menu [] (GameLayer.handleMenu h event).1).1,
        ⟨(LayerStack.follow .menu [] (GameLayer.handleMenu h event).1).2,
          (GameLayer.handleMenu h event).2⟩) :=
  rfl

/-- An event on a notice. -/
lemma step_notice (h : Host) (message : String) (shown : Bool) (event : InputEvent) :
    step ⟨⟨[.notice message shown, .menu]⟩, h⟩ event =
      (.handled, ⟨⟨if event = .confirm then [.menu] else [.notice message shown, .menu]⟩, h⟩) := by
  by_cases confirmed : event = .confirm
  · subst confirmed
    rfl
  · rw [if_neg confirmed]
    simp only [step, LayerStack.step, LayerStack.dispatch, Layer.handle, GameLayer.handle,
      if_neg confirmed, LayerStack.follow]

/-- An event in a conversation; one that fails gives way to a notice. -/
lemma step_conversation (h : Host) (index : Nat) (event : InputEvent) :
    step ⟨⟨[.conversation index, .menu]⟩, h⟩ event =
      match GameLayer.handleConversation h index event with
      | (.ok flow, h') =>
        ((LayerStack.follow (.conversation index) [.menu] flow).1,
          ⟨(LayerStack.follow (.conversation index) [.menu] flow).2, h'⟩)
      | (.error e, h') => (.handled, ⟨⟨[.freshNotice (h'.describe e), .menu]⟩, h'.leave⟩) := by
  simp only [step, LayerStack.step, LayerStack.dispatch, Layer.handle, GameLayer.handle]
  generalize GameLayer.handleConversation h index event = r
  obtain ⟨result, h'⟩ := r
  cases result with
  | ok flow => rfl
  | error e => rfl

/-- Choosing a character leads to a conversation or to a notice. -/
lemma startTalk_advance {h : Host} {index : Nat} (valid : index < h.npcs.length) :
    Advance ⟨⟨[.menu]⟩, h⟩ (.number (index + 1))
      ((LayerStack.follow .menu [] (GameLayer.startTalk h index).1).1,
        ⟨(LayerStack.follow .menu [] (GameLayer.startTalk h index).1).2,
          (GameLayer.startTalk h index).2⟩) := by
  obtain ⟨name, named⟩ := Host.exists_name valid
  have unstarted (e : DialogueError) := @Noticed.unstarted h index name e named
  have talk := h.talkTo_inv index
  rw [GameLayer.startTalk]
  generalize h.talkTo index = r at unstarted talk ⊢
  cases talk with
  | unknown outside => exact absurd valid (Nat.not_lt.2 outside)
  | started talks same => exact .started talks same
  | @failed h' e _ partner same =>
    have faces : h'.Faces name := Host.faces_of_talkingTo partner (by rw [same, named])
    dsimp only [LayerStack.follow]
    rw [faces.describe_eq]
    exact .noticed (unstarted e rfl faces) same

/-- How a game goes on from the menu. -/
lemma menu_advance (h : Host) (event : InputEvent) :
    Advance ⟨⟨[.menu]⟩, h⟩ event (step ⟨⟨[.menu]⟩, h⟩ event) := by
  rw [step_menu]
  cases event with
  | number n =>
    by_cases inside : 1 ≤ n ∧ n ≤ h.npcs.length
    · obtain ⟨index, rfl⟩ := Nat.exists_eq_add_of_le' inside.1
      have chosen : GameLayer.handleMenu h (.number (index + 1)) = GameLayer.startTalk h index :=
        if_pos inside
      rw [chosen]
      exact startTalk_advance inside.2
    · have ignored : GameLayer.handleMenu h (.number n) = (.stay, h) := if_neg inside
      rw [ignored]
      exact .ignored nofun
  | key c =>
    by_cases quits : c = 'q'
    · subst quits
      exact .quit
    · have ignored : GameLayer.handleMenu h (.key c) = (.stay, h) := if_neg quits
      rw [ignored]
      refine .ignored ?_
      rintro _ ⟨⟩
      exact quits rfl
  | confirm => exact .ignored nofun
  | cancel => exact .ignored nofun
  | tick => exact .ignored nofun

/-- How a game goes on from a notice. -/
lemma notice_advance (h : Host) (message : String) (shown : Bool) (event : InputEvent) :
    Advance ⟨⟨[.notice message shown, .menu]⟩, h⟩ event
      (step ⟨⟨[.notice message shown, .menu]⟩, h⟩ event) := by
  rw [step_notice]
  by_cases confirmed : event = .confirm
  · subst confirmed
    exact .dismissed
  · rw [if_neg confirmed]
    exact .ignored nofun

/-- How a game goes on from a conversation. -/
lemma conversation_advance {h : Host} {index : Nat} (talks : h.Talks index) (event : InputEvent) :
    Advance ⟨⟨[.conversation index, .menu]⟩, h⟩ event
      (step ⟨⟨[.conversation index, .menu]⟩, h⟩ event) := by
  obtain ⟨name, named⟩ := Host.exists_name talks.valid
  rw [step_conversation]
  by_cases leaves : event = .key 'l'
  · subst leaves
    have faces : h.Faces name := Host.faces_of_talkingTo talks.partner named
    rw [GameLayer.handleConversation, if_pos rfl, faces.partner_eq]
    exact .noticed (.left named faces) rfl
  · rw [GameLayer.handleConversation, if_neg leaves]
    -- the occasions are stated before the outcome of `converse` is generalized, as they refer to it
    have silent := @Noticed.silent h index name event named
    have broken (e : DialogueError) := @Noticed.broken h index name event e named
    have outcome := talks.converse_inv event
    generalize h.converse index event = r at silent broken outcome ⊢
    cases outcome with
    | @waits h' outcome talks same unstalled =>
      cases outcome with
      | none => exact .continued talks same
      | some transition =>
        cases transition with
        | presenting key => exact .continued talks same
        | stalled => exact absurd rfl unstalled
    | @stalled h' partner same =>
      have faces : h'.Faces name := Host.faces_of_talkingTo partner (by rw [same, named])
      dsimp only [LayerStack.follow]
      rw [faces.partner_eq]
      exact .noticed (silent rfl faces) same
    | @failed h' e _ partner same =>
      have faces : h'.Faces name := Host.faces_of_talkingTo partner (by rw [same, named])
      dsimp only
      rw [faces.describe_eq]
      exact .noticed (broken e rfl faces) same

/-- A settled game goes on in one of the ways of `Advance`. -/
lemma Settled.step_inv {g : Game} (settled : g.Settled) (event : InputEvent) :
    Advance g event (g.step event) := by
  cases settled with
  | menu _ => exact menu_advance _ event
  | notice _ => exact notice_advance _ _ _ event
  | talking talks => exact conversation_advance talks event

/-- A settled game stays settled. -/
lemma Advance.settled {g : Game} {event : InputEvent} {r : Dispatch × Game}
    (adv : Advance g event r) (settled : g.Settled) : r.2.Settled := by
  cases adv with
  | ignored _ => exact settled
  | quit => exact settled
  | dismissed =>
    cases settled with
    | notice rests => exact .menu rests
  | started talks _ => exact .talking talks
  | continued talks _ => exact .talking talks
  | noticed _ _ => exact .notice (Host.leave_rests _)

/-- The characters keep their names. -/
lemma Advance.names {g : Game} {event : InputEvent} {r : Dispatch × Game}
    (adv : Advance g event r) : r.2.host.names = g.host.names := by
  cases adv with
  | ignored _ => rfl
  | quit => rfl
  | dismissed => rfl
  | started _ same => exact same
  | continued _ same => exact same
  | noticed _ same => exact same

/-- After any events a game that was settled is settled, and the characters have their names. -/
lemma Settled.run {g : Game} (settled : g.Settled) (events : List InputEvent) :
    (g.run events).Settled ∧ (g.run events).host.names = g.host.names := by
  induction events generalizing g with
  | nil => exact ⟨settled, rfl⟩
  | cons event rest ih =>
    have adv := settled.step_inv event
    obtain ⟨later, same⟩ := ih (adv.settled settled)
    exact ⟨later, same.trans adv.names⟩

/-! ## Failures -/

/-- In a settled game a layer fails only for want of keys or for a node. -/
lemma Settled.dispatch_error {g : Game} (settled : g.Settled) {event : InputEvent}
    {e : DialogueError} (failed : (g.stack.dispatch g.host event).1 = .error e) :
    e.Navigational := by
  cases settled with
  | menu _ => cases failed
  | notice _ => cases failed
  | @talking h index talks =>
    have outcome := talks.converse_inv event
    simp only [LayerStack.dispatch, Layer.handle, GameLayer.handle,
      GameLayer.handleConversation] at failed
    by_cases leaves : event = .key 'l'
    · rw [if_pos leaves] at failed
      cases failed
    · rw [if_neg leaves] at failed
      generalize h.converse index event = r at outcome failed
      cases outcome with
      | @waits h' outcome _ _ _ =>
        cases outcome with
        | none => cases failed
        | some transition => cases transition <;> cases failed
      | stalled _ _ => cases failed
      | failed navigational _ _ =>
        cases failed
        exact navigational

/-! ## Consistency -/

/-- Stack and host agree. -/
structure Consistent (g : Game) : Prop where
  /-- The menu lies at the bottom, with at most one conversation or notice on it. -/
  shape : g.stack.layers = [.menu] ∨ (∃ index, g.stack.layers = [.conversation index, .menu]) ∨
    ∃ message shown, g.stack.layers = [.notice message shown, .menu]
  /-- A conversation lies on top if and only if it waits for a selection. -/
  talks_iff : ∀ index, g.stack.layers.head? = some (.conversation index) ↔ g.host.Talks index
  /-- Without a conversation on top the host rests. -/
  rests : (∀ index, g.stack.layers.head? ≠ some (.conversation index)) → g.host.Rests

/-- A settled game is consistent. -/
lemma Settled.consistent {g : Game} (settled : g.Settled) : g.Consistent := by
  cases settled with
  | menu rests =>
    refine ⟨.inl rfl, fun index => ⟨nofun, fun talks => ?_⟩, fun _ => rests⟩
    exact absurd talks (rests.not_talks index)
  | notice rests =>
    refine ⟨.inr (.inr ⟨_, _, rfl⟩), fun index => ⟨nofun, fun talks => ?_⟩, fun _ => rests⟩
    exact absurd talks (rests.not_talks index)
  | @talking h index talks =>
    refine ⟨.inr (.inl ⟨_, rfl⟩), fun other => ⟨?_, fun now => ?_⟩, fun none => ?_⟩
    · rintro ⟨⟩
      exact talks
    · have partner := now.partner
      rw [talks.partner] at partner
      cases partner
      rfl
    · exact absurd rfl (none index)

/-- A game starts settled. -/
lemma start_settled (s : Scenario) (source : Random.Source) : (start s source).Settled :=
  .menu (Host.ofScenario_rests s source)

/-- Only the key `q` on the menu quits, and no event is unhandled. -/
lemma Advance.dispatch {g : Game} {event : InputEvent} {r : Dispatch × Game}
    (adv : Advance g event r) :
    r.1 ≠ .unhandled ∧ (r.1 = .quit ↔ g.stack.layers = [.menu] ∧ event = .key 'q') := by
  cases adv with
  | ignored unquit => exact ⟨nofun, nofun, fun ⟨menu, quits⟩ => absurd quits (unquit menu)⟩
  | quit => exact ⟨nofun, fun _ => ⟨rfl, rfl⟩, fun _ => rfl⟩
  | dismissed => exact ⟨nofun, nofun, nofun⟩
  | started _ _ => exact ⟨nofun, nofun, nofun⟩
  | continued _ _ => exact ⟨nofun, nofun, nofun⟩
  | noticed occasion _ =>
    refine ⟨nofun, nofun, ?_⟩
    rintro ⟨menu, rfl⟩
    cases occasion <;> cases menu

/-- A notice is new only when it was noticed. -/
lemma Advance.notice {g : Game} {event : InputEvent} {r : Dispatch × Game}
    (adv : Advance g event r) {message : String} {shown : Bool}
    (top : r.2.stack.layers.head? = some (.notice message shown)) :
    r.2.stack = g.stack ∨ Noticed g event message := by
  cases adv with
  | ignored _ => exact .inl rfl
  | quit => cases top
  | dismissed => cases top
  | started _ _ => cases top
  | continued _ _ => cases top
  | noticed occasion _ =>
    cases top
    exact .inr occasion

/-- Whatever the events were since the start, the game is consistent, with the characters of the
scenario, and one more event does the following. It is handled, or it quits from the menu; layers
are left. The errors that it meets, be it in a conversation or in starting one, are those of visits.
A notice that it puts on top has its occasion, and is worded with the name of the character of the
conversation. -/
theorem run_consistent (s : Scenario) (source : Random.Source) (events : List InputEvent)
    (event : InputEvent) :
    let g := (start s source).run events
    let next := g.step event
    g.Consistent ∧
    g.host.names = s.npcs.map (·.identity) ∧
    next.1 ≠ .unhandled ∧
    (next.1 = .quit ↔ g.stack.layers = [.menu] ∧ event = .key 'q') ∧
    next.2.stack.layers ≠ [] ∧
    (∀ e, (g.stack.dispatch g.host event).1 = .error e → e.Navigational) ∧
    (∀ index e, g.stack.layers = [.menu] → event = .number (index + 1) →
      index < g.host.npcs.length → (g.host.talkTo index).1 = .error e → e.Navigational) ∧
    (∀ message shown, next.2.stack.layers.head? = some (.notice message shown) →
      next.2.stack = g.stack ∨ Noticed g event message) := by
  intro g next
  obtain ⟨settled, same⟩ := (start_settled s source).run events
  have adv : Advance g event next := settled.step_inv event
  have later : next.2.Settled := adv.settled settled
  obtain ⟨handled, quits⟩ := adv.dispatch
  refine ⟨settled.consistent, same, handled, quits, ?_, fun e => settled.dispatch_error,
    fun index e _ _ => Host.talkTo_error, fun message shown => adv.notice⟩
  obtain menu | ⟨index, talking⟩ | ⟨message, shown, notice⟩ := later.consistent.shape
  · rw [menu]
    exact nofun
  · rw [talking]
    exact nofun
  · rw [notice]
    exact nofun

end Parley.Game
