import Parley.Game.Host
import Parley.Proofs.Conversation.Terminal

/-!
# Inversion of host steps

Between two events a host either rests (`Host.Rests`) or talks to one character (`Host.Talks`).
`Talk` and `Converse` are the outcomes of starting a conversation and of an event in one. Whatever
goes wrong in them, the host still faces the character that it went wrong with (`Host.Faces`), so
that it can be named.
-/

namespace Parley

/-- How a conversation with someone of this name that broke off is put into words. -/
def brokenOff (name : String) : DialogueError → String
  | .frontierExhausted => name ++ " has nothing more to say."
  | e => "The conversation with " ++ name ++ " breaks off (" ++ e.message ++ ")."

namespace Host

/-- Nobody is being talked to, and nothing is shown. -/
structure Rests (h : Host) : Prop where
  alone : h.talkingTo = none
  unpresented : h.conversation.phase ≠ .presenting
  unshown : h.conversation.episode = none
  blank : h.conversation.surface.page = .empty

/-- The character at a position is being talked to, and a node of the conversation waits for a
selection. -/
structure Talks (h : Host) (index : Nat) : Prop where
  partner : h.talkingTo = some index
  valid : index < h.npcs.length
  awaits : h.conversation.Awaits

/-- The names of the characters in order. -/
def names (h : Host) : List String := h.npcs.map (·.identity)

/-- Someone of this name is being talked to. -/
def Faces (h : Host) (name : String) : Prop :=
  (h.talkingTo.bind (h.npcs[·]?)).map (·.identity) = some name

/-- The one that is being talked to is faced. -/
lemma faces_of_talkingTo {h : Host} {index : Nat} {name : String}
    (partner : h.talkingTo = some index) (named : h.names[index]? = some name) : h.Faces name := by
  rw [names, List.getElem?_map] at named
  rw [Faces, partner]
  exact named

/-- The partner has the name of the one that is faced. -/
lemma Faces.partner_eq {h : Host} {name : String} (faces : h.Faces name) : h.partner = name := by
  obtain ⟨npc, found, named⟩ := Option.map_eq_some_iff.1 faces
  rw [partner, found]
  exact named

/-- A conversation that broke off is described by the name of the partner. -/
lemma describe_eq (h : Host) (e : DialogueError) : h.describe e = brokenOff h.partner e := by
  cases e <;> rfl

/-- A conversation that broke off is described by the name of the one that is faced. -/
lemma Faces.describe_eq {h : Host} {name : String} (faces : h.Faces name) (e : DialogueError) :
    h.describe e = brokenOff name e := by
  rw [Host.describe_eq, faces.partner_eq]

/-- Whoever faces nobody has a partner called nobody. -/
lemma partner_of_not_faces {h : Host} (alone : ∀ name, ¬ h.Faces name) : h.partner = "nobody" := by
  cases found : h.talkingTo.bind (h.npcs[·]?) with
  | none => rw [partner, found]
  | some npc =>
    refine absurd ?_ (alone npc.identity)
    rw [Faces, found]
    rfl

/-- Every position has a name. -/
lemma exists_name {h : Host} {index : Nat} (valid : index < h.npcs.length) :
    ∃ name, h.names[index]? = some name := by
  refine ⟨h.npcs[index].identity, ?_⟩
  rw [names, List.getElem?_map, List.getElem?_eq_getElem valid]
  rfl

/-- A host that left its conversation rests. -/
lemma leave_rests (h : Host) : h.leave.Rests where
  alone := rfl
  unpresented := nofun
  unshown := rfl
  blank := rfl

/-- A host rests before its first conversation. -/
lemma ofScenario_rests (s : Scenario) (source : Random.Source) : (ofScenario s source).Rests where
  alone := rfl
  unpresented := nofun
  unshown := rfl
  blank := rfl

/-- A host that rests talks to nobody. -/
lemma Rests.not_talks {h : Host} (rests : h.Rests) (index : Nat) : ¬ h.Talks index := by
  intro talks
  have partner := talks.partner
  rw [rests.alone] at partner
  cases partner

/-! ## Starting a conversation -/

/-- The outcomes of starting to talk to the character at a position. -/
inductive Talk (h : Host) (index : Nat) : Except DialogueError Unit × Host → Prop where
  | unknown :
    h.npcs.length ≤ index →
    Talk h index (.error (.unknownNpc index), h)
  | started {h'} :
    h'.Talks index →
    h'.names = h.names →
    Talk h index (.ok (), h')
  | failed {h' e} :
    e.Navigational →
    h'.talkingTo = some index →
    h'.names = h.names →
    Talk h index (.error e, h')

/-- Starting to talk has one of the outcomes of `Talk`. -/
lemma talkTo_inv (h : Host) (index : Nat) : Talk h index (h.talkTo index) := by
  rw [talkTo]
  cases found : h.npcs[index]? with
  | none => exact .unknown (List.getElem?_eq_none_iff.1 found)
  | some npc =>
    have valid := (List.getElem?_eq_some_iff.1 found).1
    -- the session was just started, so the visit is not turned away
    have idle := h.conversation.startSession_open h.entryKeys
    obtain ⟨ended, _⟩ | ⟨_, drawn⟩ :=
      (h.conversation.startSession h.entryKeys).visitRandom_inv npc
    · exact absurd ended idle
    · have v := (h.conversation.startSession h.entryKeys).visitDrawn_inv npc
      dsimp only
      rw [drawn]
      generalize (h.conversation.startSession h.entryKeys).visitDrawn npc = r at v
      obtain ⟨result, c'⟩ := r
      cases result with
      | ok key => exact .started ⟨rfl, valid, v.holds Conversation.showing_awaits⟩ rfl
      | error e => exact .failed (v.error_navigational idle) rfl rfl

/-- Starting to talk to one of the characters fails only for want of keys or for a node. -/
lemma talkTo_error {h : Host} {index : Nat} {e : DialogueError} (valid : index < h.npcs.length)
    (failed : (h.talkTo index).1 = .error e) : e.Navigational := by
  have talk := h.talkTo_inv index
  generalize h.talkTo index = r at talk failed
  cases talk with
  | unknown outside => exact absurd valid (Nat.not_lt.2 outside)
  | started _ _ => cases failed
  | failed navigational _ _ =>
    cases failed
    exact navigational

/-! ## Conversing -/

/-- The outcomes of an event in the conversation with the character at a position. -/
inductive Converse (h : Host) (index : Nat) :
    Except DialogueError (Option Transition) × Host → Prop where
  | waits {h' outcome} :
    h'.Talks index →
    h'.names = h.names →
    outcome ≠ some .stalled →
    Converse h index (.ok outcome, h')
  | stalled {h'} :
    h'.talkingTo = some index →
    h'.names = h.names →
    Converse h index (.ok (some .stalled), h')
  | failed {h' e} :
    e.Navigational →
    h'.talkingTo = some index →
    h'.names = h.names →
    Converse h index (.error e, h')

/-- A character keeps its name when it acts. -/
lemma names_set {npcs : List Npc} {index : Nat} {npc npc' : Npc}
    (found : npcs[index]? = some npc) (same : npc'.identity = npc.identity) :
    (npcs.set index npc').map (·.identity) = npcs.map (·.identity) := by
  have named : (npcs.map (·.identity))[index]? = some npc'.identity := by
    rw [List.getElem?_map, found, same]
    rfl
  obtain ⟨inside, e⟩ := List.getElem?_eq_some_iff.1 named
  rw [List.map_set, ← e]
  exact List.set_getElem_self inside

/-- An event in a conversation that waits has one of the outcomes of `Converse`. -/
lemma Talks.converse_inv {h : Host} {index : Nat} (talks : h.Talks index) (event : InputEvent) :
    Converse h index (h.converse index event) := by
  obtain ⟨npc, found⟩ : ∃ npc, h.npcs[index]? = some npc :=
    ⟨_, List.getElem?_eq_getElem talks.valid⟩
  have kept (npc' : Npc) : index < (h.npcs.set index npc').length := by
    rw [List.length_set]
    exact talks.valid
  rw [converse, found]
  dsimp only
  have reply := talks.awaits.reply npc event
  generalize h.conversation.handleEvent npc event = r at reply
  cases reply with
  | silent awaits =>
    exact .waits ⟨talks.partner, kept _, awaits⟩ (names_set found rfl) nofun
  | moved awaits =>
    exact .waits ⟨talks.partner, kept _, awaits⟩ (names_set found rfl) nofun
  | stalled => exact .stalled talks.partner (names_set found rfl)
  | failed navigational => exact .failed navigational talks.partner (names_set found rfl)

end Host

end Parley
