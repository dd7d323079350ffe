import Mathlib.Logic.Function.Basic
import Parley.Proofs.Conversation.Lockstep

/-!
# Isolation of sessions

A session that is started after another one was ended cannot be told from the first session of a
fresh conversation at a terminal, except by the numbers of its episodes. Terminals that show pages
of episodes a fixed number apart, in the same mode, answer events alike (`Terminal.Parallel`), so
the two conversations stay in step under all that a player can have done with them (`Act`), and
whatever is seen after each of these acts (`Scene.sights`) differs in the numbers alone
(`session_isolated`).
-/

namespace Parley

/-! ## Terminals side by side -/

namespace Terminal

/-- The first terminal shows the page of an episode `n` later, in the same mode. The screens need
not have been drawn at the same time. -/
structure Parallel (n : Nat) (t u : Terminal) : Prop where
  page : t.page = u.page.shift n
  mode : t.mode = u.mode

/-- Two answers that report the same, `n` later, from terminals that are parallel. -/
structure SameReport (n : Nat) (r r' : Option Selection × Terminal) : Prop where
  report : r.1 = r'.1.map (Selection.shift n)
  parallel : Parallel n r.2 r'.2

namespace Parallel

variable {n : Nat} {t u : Terminal}

/-- Parallel terminals that both report nothing report the same. -/
lemma silent (par : Parallel n t u) : SameReport n (none, t) (none, u) := ⟨rfl, par⟩

/-- Parallel terminals stay parallel when both go to a mode. -/
lemma goto (par : Parallel n t u) (mode : TerminalMode) :
    Parallel n (t.goto mode) (u.goto mode) :=
  ⟨par.page, rfl⟩

/-- Parallel terminals report the same option, each with its own number. -/
lemma deliver (par : Parallel n t u) (pick : Pick) :
    SameReport n (t.deliver (t.page.selectionFor pick)) (u.deliver (u.page.selectionFor pick)) := by
  rw [par.page, Page.selectionFor_shift]
  cases u.page.selectionFor pick with
  | none => exact par.silent
  | some s => exact ⟨rfl, par.page, rfl⟩

/-- Parallel terminals hold up the same item. -/
lemma holdUp (par : Parallel n t u) (k : Nat) : Parallel n (t.holdUp k) (u.holdUp k) := by
  have same : t.page.items = u.page.items := by rw [par.page, Page.items_shift]
  rw [Terminal.holdUp, Terminal.holdUp, same]
  split
  · exact par.goto _
  · exact par

/-- Parallel terminals answer every event alike. -/
lemma respond (par : Parallel n t u) (event : InputEvent) :
    SameReport n (t.respond event) (u.respond event) := by
  have opens : t.page.present.isSome = u.page.present.isSome := by
    rw [par.page, Page.isSome_present_shift]
  obtain ⟨page, mode, dirty⟩ := t
  obtain ⟨page', mode', dirty'⟩ := u
  obtain rfl : mode = mode' := par.mode
  -- the cases follow the rows of `Terminal.respond`; in the other rows nothing happens
  cases mode with
  | spent => cases event <;> exact par.silent
  | choosing =>
    cases event with
    | number k =>
      rw [respond_number (t := ⟨page, .choosing, dirty⟩) rfl,
        respond_number (t := ⟨page', .choosing, dirty'⟩) rfl]
      split
      · exact par.deliver _
      · exact par.silent
    | key c =>
      rw [respond_key (t := ⟨page, .choosing, dirty⟩) rfl,
        respond_key (t := ⟨page', .choosing, dirty'⟩) rfl, opens]
      split
      · exact (par.goto .picking).silent
      · exact par.silent
    | _ => exact par.silent
  | picking =>
    cases event with
    | number k => exact (par.holdUp k).silent
    | cancel => exact (par.goto .choosing).silent
    | _ => exact par.silent
  | confirming index =>
    cases event with
    | number k => exact (par.holdUp k).silent
    | cancel => exact (par.goto .picking).silent
    | confirm => exact par.deliver _
    | _ => exact par.silent

end Parallel

end Terminal

namespace Conversation

open Terminal (Parallel)

/-- The choices of a later episode are the same with later handles. -/
lemma choicesFrom_shift (n id : Nat) (choices : List Choice) (index : Nat) :
    choicesFrom (id + n) choices index =
      (choicesFrom id choices index).map fun (label, handle) => (label, handle.shift n) := by
  rw [choicesFrom, choicesFrom, List.map_map]
  rfl

/-- Terminals that are shown the same episode with different numbers are parallel. -/
lemma shownAlike_parallel (n : Nat) : ShownAlike (Parallel n) n := by
  intro t u id text choices items
  refine ⟨?_, ?_⟩
  · have page := page_display t (id + n) text choices items
    have page' := page_display u id text choices items
    rw [choicesFrom_shift] at page
    refine page.trans (Eq.trans ?_ (congrArg (Page.shift n) page'.symm))
    cases items <;> rfl
  · rw [mode_display, mode_display]

/-! ## Conversations side by side -/

variable {n : Nat} {c d : Conversation Terminal}

/-- Events keep conversations in step, since what is reported is either accepted by both of them or
refused by both for the same reason. -/
lemma InStep.handleEvent (st : InStep (Parallel n) n c d) (reachable : d.Reachable) (npc : Npc)
    (event : InputEvent) :
    SameReply (Parallel n) n (c.handleEvent npc event) (d.handleEvent npc event) := by
  obtain ⟨report, par⟩ := st.surfaces.respond event
  have heard : InStep (Parallel n) n (c.heard event) (d.heard event) := { st with surfaces := par }
  cases reported : (Surface.respond d.surface event).1 with
  | none =>
    have reported' : (Surface.respond c.surface event).1 = none :=
      report.trans (congrArg (Option.map (Selection.shift n)) reported)
    rw [handleEvent_silent reported, handleEvent_silent reported']
    exact ⟨rfl, heard, rfl⟩
  | some s =>
    have reported' : (Surface.respond c.surface event).1 = some (s.shift n) :=
      report.trans (congrArg (Option.map (Selection.shift n)) reported)
    rw [handleEvent_reported reported, handleEvent_reported reported']
    cases live : d.episode with
    | none =>
      -- a page that was left up by an earlier session can be selected on, in both of them
      obtain ⟨v, refused, refused'⟩ := heard.accept_unshown live (s.shift n) s
      rw [select_refused refused, select_refused refused']
      exact ⟨rfl, heard, rfl⟩
    | some e =>
      obtain ⟨marks, num⟩ := reachable.numbered
      obtain ⟨action, _, accepted⟩ := reachable.displayed.accepts (num.going_on live) live reported
      obtain ⟨result, after, back⟩ :=
        heard.select (shownAlike_parallel n) (heard.accept accepted) accepted npc
      exact ⟨congrArg (Except.map some) result, after, back⟩

/-- The same view of episodes that are `n` later. -/
def View.shift (n : Nat) (v : View) : View := { v with page := v.page.shift n }

/-- Conversations in step look the same up to the numbers on the page. -/
lemma InStep.view (st : InStep (Parallel n) n c d) : c.view = d.view.shift n := by
  have page : Surface.page c.surface = (Surface.page d.surface).shift n := st.surfaces.page
  rw [Conversation.view, st.phase, st.currentKey, st.frontier, page]
  rfl

end Conversation

/-! ## Scenes -/

open Conversation

/-- What a player can have done with a conversation; `who` is the character that it is done on
behalf of. Selections are left to the surface. -/
inductive Act where
  | startSession (entryKeys : List Key)
  | endSession
  | visit (who : Nat) (key : Key)
  | visitRandom (who : Nat)
  | handleEvent (who : Nat) (event : InputEvent)

/-- A conversation with its characters, in the states that they are in now. -/
structure Scene (σ : Type) where
  conversation : Conversation σ
  cast : Nat → Npc

/-- What is seen after an act: its result, the conversation and the characters. -/
structure Sight where
  result : Except DialogueError (Option Transition)
  view : View
  cast : Nat → Npc

/-- The same sight of episodes that are `n` later. -/
def Sight.shift (n : Nat) (s : Sight) : Sight := { s with view := s.view.shift n }

namespace Scene

section

variable {σ : Type} [Surface σ]

/-- Calls the conversation on behalf of a character, who keeps the state that comes back. -/
def ask (sc : Scene σ) (who : Nat) (call : Call) :
    Except DialogueError (Option Transition) × Scene σ :=
  let (result, conversation, npc) := call.perform sc.conversation (sc.cast who)
  (result, ⟨conversation, Function.update sc.cast who npc⟩)

/-- The result of an act, and the scene after it. -/
def act (sc : Scene σ) : Act → Except DialogueError (Option Transition) × Scene σ
  | .startSession entryKeys =>
    (.ok none, { sc with conversation := sc.conversation.startSession entryKeys })
  | .endSession => (.ok none, { sc with conversation := sc.conversation.endSession })
  | .visit who key => sc.ask who (.visit key)
  | .visitRandom who => sc.ask who .visitRandom
  | .handleEvent who event => sc.ask who (.handleEvent event)

/-- What is seen after each of the acts. -/
def sights (sc : Scene σ) : List Act → List Sight
  | [] => []
  | a :: rest =>
    let (result, sc) := sc.act a
    ⟨result, sc.conversation.view, sc.cast⟩ :: sights sc rest

end

/-- Scenes with the same characters, and with conversations at terminals that are in step. -/
structure InStep (n : Nat) (sc sc' : Scene Terminal) : Prop where
  conversations : Conversation.InStep (Terminal.Parallel n) n sc.conversation sc'.conversation
  cast : sc.cast = sc'.cast
  reachable : sc'.conversation.Reachable

/-- Two acts that end alike, in scenes that are in step. -/
structure SameOutcome (n : Nat) (r r' : Except DialogueError (Option Transition) × Scene Terminal) :
    Prop where
  result : r.1 = r'.1
  inStep : InStep n r.2 r'.2

variable {n : Nat} {sc sc' : Scene Terminal}

/-- What is asked of one character keeps the conversations with all of them in step. -/
lemma InStep.ask (st : InStep n sc sc') (who : Nat) (call : Call)
    (same : SameReply (Terminal.Parallel n) n (call.perform sc.conversation (sc'.cast who))
      (call.perform sc'.conversation (sc'.cast who))) :
    SameOutcome n (sc.ask who call) (sc'.ask who call) := by
  rw [Scene.ask, st.cast]
  exact ⟨same.result, same.inStep, congrArg (Function.update sc'.cast who) same.npc,
    st.reachable.apply (.ask (sc'.cast who) call)⟩

/-- One act keeps scenes in step. -/
lemma InStep.act (st : InStep n sc sc') (a : Act) : SameOutcome n (sc.act a) (sc'.act a) := by
  have alike := shownAlike_parallel n
  cases a with
  | startSession entryKeys =>
    exact ⟨rfl, st.conversations.startSession entryKeys, st.cast,
      st.reachable.apply (.startSession entryKeys)⟩
  | endSession =>
    exact ⟨rfl, st.conversations.endSession ⟨rfl, rfl⟩, st.cast, st.reachable.apply .endSession⟩
  | visit who key =>
    refine st.ask who (.visit key) ?_
    obtain ⟨result, after⟩ := st.conversations.visit alike (sc'.cast who) key
    exact ⟨congrArg (Except.map fun _ => none) result, after, rfl⟩
  | visitRandom who =>
    refine st.ask who .visitRandom ?_
    obtain ⟨result, after⟩ := st.conversations.visitRandom alike (sc'.cast who)
    exact ⟨congrArg (Except.map fun _ => none) result, after, rfl⟩
  | handleEvent who event =>
    exact st.ask who (.handleEvent event)
      (st.conversations.handleEvent st.reachable (sc'.cast who) event)

/-- Scenes in step look alike, but for the numbers, however many acts follow. -/
lemma InStep.sights (st : InStep n sc sc') (acts : List Act) :
    sc.sights acts = (sc'.sights acts).map (Sight.shift n) := by
  induction acts generalizing sc sc' with
  | nil => rfl
  | cons a rest ih =>
    have same := st.act a
    rw [Scene.sights, Scene.sights]
    generalize sc.act a = r, sc'.act a = r' at same ⊢
    obtain ⟨result, sc⟩ := r
    obtain ⟨result', sc'⟩ := r'
    obtain ⟨rfl, after⟩ := same
    dsimp only
    rw [ih after, after.conversations.view, after.cast]
    rfl

end Scene

/-- Whatever became of a conversation at a terminal: a session that is started after an earlier one
was ended shows the same as that session in a fresh conversation with the same collections and
random numbers, at first and after each of the acts that follow, except that all episodes are
numbered on from those of the earlier sessions. -/
theorem session_isolated (c : Conversation Terminal) (cast : Nat → Npc) (entryKeys : List Key)
    (acts : List Act) :
    let again := c.endSession.startSession entryKeys
    let fresh := (create Terminal.blank c.collections c.source).startSession entryKeys
    again.view = fresh.view.shift c.episodesStarted ∧
      (Scene.mk again cast).sights acts =
        ((Scene.mk fresh cast).sights acts).map (Sight.shift c.episodesStarted) := by
  intro again fresh
  have st : InStep (Terminal.Parallel c.episodesStarted) c.episodesStarted again fresh :=
    ⟨⟨rfl, rfl⟩, rfl, rfl, rfl, rfl, rfl, (Nat.zero_add c.episodesStarted).symm⟩
  have reachable : fresh.Reachable :=
    ⟨Terminal.blank, c.collections, c.source, [.startSession entryKeys], rfl⟩
  have scenes : Scene.InStep c.episodesStarted ⟨again, cast⟩ ⟨fresh, cast⟩ := ⟨st, rfl, reachable⟩
  exact ⟨st.view, scenes.sights acts⟩

end Parley
