import Parley.Proofs.Json.ReadBack
import Parley.Scenario.File

/-!
# Keys in files

A key is written in two ways in a list, as an integer or as a text (`Key.Spells`), and in a third
one in a graph, as the name of a member. All of them lead to the same node, and keys and collections
are read back from their own text (`keys_survive_files`).
-/

namespace Parley

open Json (Reader Value)
open Json.Reader (Begins ReadsAs Joined maxDepth)

/-! ## Keys -/

namespace Key

/-- The values that stand for a key in a list. -/
inductive Spells : Value → Key → Prop where
  | number {n : Int} :
    Decimal.minSigned ≤ n →
    n ≤ Decimal.maxSigned →
    Spells (.ofInt n) (.ofInt n)
  | text {s : String} :
    Spells (.string s) ⟨s⟩

variable {v : Value} {k : Key} {vs : List Value} {ks : List Key} {depth : Nat}

/-- What stands for a key is read as that key, and does not look like the end of a list. -/
lemma Spells.readsAs (spells : Spells v k) (depth : Nat) :
    Begins v ∧ ReadsAs (Key.read depth) v k := by
  cases spells with
  | @number n least most =>
    have signed : Decimal.isSigned n = true := by
      rw [Decimal.isSigned, decide_eq_true least, decide_eq_true most]
      rfl
    have key : ofValue? (.ofInt n) = some (.ofInt n) := if_pos signed
    refine ⟨Reader.begins_int n, (Reader.readsAs_value_int least most depth).bind fun rest => ?_⟩
    rw [key]
    rfl
  | @text s =>
    exact ⟨Reader.begins_string s, (Reader.readsAs_value_string depth s).bind fun _ => rfl⟩

/-- A list of what stands for keys is read as the keys. -/
lemma readsAs_readList (spell : List.Forall₂ Spells vs ks) :
    ReadsAs (readList (depth + 1)) (.array vs) ks :=
  Reader.readsAs_list (spell.imp fun _ _ spells => spells.readsAs depth)

/-- Keys are written as texts. -/
lemma spells_toValue (ks : List Key) : List.Forall₂ Spells (ks.map toValue) ks :=
  List.forall₂_map_left_iff.2 (List.forall₂_same.2 fun _ _ => .text)

/-- Different integers are different keys. -/
lemma ofInt_inj {m n : Int} : ofInt m = ofInt n ↔ m = n := by
  constructor
  · intro same
    exact Decimal.ofInt_injective (congrArg Key.name same)
  · exact congrArg ofInt

end Key

/-! ## Collections -/

namespace Collections

/-- Collections are read back from their value. -/
lemma readsAs_toValue (c : Collections) (depth : Nat) :
    ReadsAs (Collections.read (depth + 2)) c.toValue c := by
  have item (i : Item) : Begins (.string i.name) ∧ ReadsAs (Item.read depth) (.string i.name) i :=
    ⟨Reader.begins_string _, (Reader.readsAs_string _ _).map Item.mk⟩
  have items (is : List Item) :
      ReadsAs (Reader.list (depth + 1) Item.read) (.array (is.map (.string ·.name))) is :=
    Reader.readsAs_list (List.forall₂_map_left_iff.2 (List.forall₂_same.2 fun i _ => item i))
  have entries : ReadsAs (Reader.dictionary (depth + 2) fun depth => Reader.list depth Item.read)
      c.toValue (.ofList c.byKind.entries) :=
    Reader.readsAs_dictionary
      (List.forall₂_map_left_iff.2 (List.forall₂_same.2 fun e _ => ⟨rfl, items e.2⟩))
  rw [Dictionary.ofList_entries] at entries
  exact entries.map Collections.mk

end Collections

/-! ## Graphs and scenarios -/

/-- A node that only has words is written as an object with the words. -/
lemma readsAs_line (words : String) (depth : Nat) :
    ReadsAs (ScriptNode.read (depth + 1)) (.object [("text", .string words)])
      ⟨.line words, [], none⟩ := by
  have said : ReadsAs (ScriptText.read depth) (.string words) (.line words) :=
    (Reader.readsAs_value_string depth words).bind fun _ => rfl
  have text : ReadsAs (NodeDraft.layout.fields[0].read depth {}) (.string words)
      { text := some (.line words) } :=
    said.map _
  have record : ReadsAs (NodeDraft.layout.read {} (depth + 1)) (.object [("text", .string words)])
      { text := some (.line words) } :=
    Reader.readsAs_record (.cons (Reader.member_of_field rfl rfl text) .nil) rfl
  exact record.bind fun _ => rfl

/-- A character as it is written in a file: its name, and the members of its graph with the nodes
that they are read as. -/
structure WrittenNpc where
  name : String
  members : List (String × Value)
  nodes : List (String × ScriptNode)
  read : List.Forall₂ (fun m e => m.1 = e.1 ∧ ReadsAs (ScriptNode.read (maxDepth - 4)) m.2 e.2)
    members nodes

namespace WrittenNpc

/-- The character as a JSON value. -/
def value (w : WrittenNpc) : Value :=
  .object [("name", .string w.name), ("graph", .object w.members)]

/-- The character as it is read. -/
def script (w : WrittenNpc) : ScriptNpc := ⟨w.name, .empty, .ofList w.nodes⟩

/-- The character has the name that was written, and under each key the last node that was written
under the name of the key. -/
def Describes (w : WrittenNpc) (npc : Npc) : Prop :=
  npc.identity = w.name ∧
    ∀ key : Key, npc.graph.get? key =
      (Entries.find? key.name w.nodes.reverse).map ScriptNode.toNode

end WrittenNpc

/-- Under each key a character has the node that was read under the name of the key. -/
lemma get?_toNpc (n : ScriptNpc) (key : Key) :
    n.toNpc.graph.get? key = (n.nodes.get? key.name).map ScriptNode.toNode := by
  -- nodes are put into the graph and into the dictionary side by side
  have step (es : List (String × ScriptNode)) {g : Graph} {d : Dictionary ScriptNode}
      (same : ∀ key : Key, g.get? key = (d.get? key.name).map ScriptNode.toNode) (key : Key) :
      (es.foldl (fun g e => g.insert ⟨e.1⟩ e.2.toNode) g).get? key =
        ((es.foldl (fun d e => d.insert e.1 e.2) d).get? key.name).map ScriptNode.toNode := by
    induction es generalizing g d with
    | nil => exact same key
    | cons e es ih =>
      refine ih fun key => ?_
      rw [Graph.get?_insert]
      split
      · next here =>
        subst here
        rw [Dictionary.get?_insert_self]
        rfl
      · next other =>
        rw [Dictionary.get?_insert_of_ne _ fun here => other (congrArg Key.mk here)]
        exact same key
  have none (key : Key) : Graph.empty.get? key =
      ((Dictionary.empty : Dictionary ScriptNode).get? key.name).map ScriptNode.toNode := rfl
  have whole := step n.nodes.entries none key
  have entries := Dictionary.ofList_entries n.nodes
  rw [Dictionary.ofList] at entries
  rwa [entries] at whole

/-- The character that is made of a written one has its name and its nodes. -/
lemma WrittenNpc.describes (w : WrittenNpc) : w.Describes w.script.toNpc :=
  ⟨rfl, fun key => by rw [get?_toNpc, script, Dictionary.get?_ofList]⟩

/-- A written character is read back. -/
lemma WrittenNpc.readsAs (w : WrittenNpc) :
    ReadsAs (ScriptNpc.read (maxDepth - 2)) w.value w.script := by
  have name : ReadsAs (NpcDraft.layout.fields[0].read (maxDepth - 3) {}) (.string w.name)
      { name := some w.name } :=
    (Reader.readsAs_string _ _).map _
  have graph : ReadsAs (NpcDraft.layout.fields[2].read (maxDepth - 3) { name := some w.name })
      (.object w.members) { name := some w.name, nodes := some (.ofList w.nodes) } :=
    (Reader.readsAs_dictionary w.read).map _
  have record : ReadsAs (NpcDraft.layout.read {} (maxDepth - 2)) w.value
      { name := some w.name, nodes := some (.ofList w.nodes) } :=
    Reader.readsAs_record
      (.cons (Reader.member_of_field rfl rfl name)
        (.cons (Reader.member_of_field rfl rfl graph) .nil)) rfl
  exact record.bind fun _ => rfl

/-- A scenario as a JSON value, with the values of its entry keys. -/
def scenarioValue (c : Collections) (entryKeys : List Value) (npcs : List WrittenNpc) : Value :=
  .object [("collections", c.toValue), ("entry_keys", .array entryKeys),
    ("npcs", .array (npcs.map WrittenNpc.value))]

variable {c : Collections} {vs : List Value} {ks : List Key} {npcs : List WrittenNpc}

/-- A written scenario is read back, with the entry keys that its values stand for. -/
lemma readsAs_scenarioValue (spell : List.Forall₂ Key.Spells vs ks) :
    ReadsAs (ScenarioFile.read maxDepth) (scenarioValue c vs npcs)
      ⟨c, ks, npcs.map WrittenNpc.script⟩ := by
  have collections : ReadsAs (ScenarioDraft.layout.fields[0].read (maxDepth - 1) {}) c.toValue
      { collections := some c } :=
    (c.readsAs_toValue _).map _
  have entryKeys : ReadsAs
      (ScenarioDraft.layout.fields[1].read (maxDepth - 1) { collections := some c })
      (.array vs) { collections := some c, entryKeys := some ks } :=
    (Key.readsAs_readList spell).map _
  have people : ReadsAs (Reader.list (maxDepth - 1) ScriptNpc.read)
      (.array (npcs.map WrittenNpc.value)) (npcs.map WrittenNpc.script) := by
    refine Reader.readsAs_list (List.forall₂_map_left_iff.2 (List.forall₂_map_right_iff.2
      (List.forall₂_same.2 fun w _ => ⟨?_, w.readsAs⟩)))
    exact ⟨'\x7b', _, rfl, by decide, by decide⟩
  have npcs : ReadsAs
      (ScenarioDraft.layout.fields[2].read (maxDepth - 1)
        { collections := some c, entryKeys := some ks })
      (.array (npcs.map WrittenNpc.value))
      { collections := some c, entryKeys := some ks, npcs := some (npcs.map WrittenNpc.script) } :=
    people.map _
  have record : ReadsAs (ScenarioDraft.layout.read {} maxDepth) (scenarioValue c vs _) _ :=
    Reader.readsAs_record
      (.cons (Reader.member_of_field rfl rfl collections)
        (.cons (Reader.member_of_field rfl rfl entryKeys)
          (.cons (Reader.member_of_field rfl rfl npcs) .nil))) rfl
  exact record.bind fun _ => rfl

/-- A scenario with at least one character is built from its text. -/
lemma ofText_scenarioValue (spell : List.Forall₂ Key.Spells vs ks) (some : npcs ≠ []) :
    ∃ s, Scenario.ofText (scenarioValue c vs npcs).text = .ok s ∧ s.collections = c ∧
      s.entryKeys = ks ∧ List.Forall₂ WrittenNpc.Describes npcs s.npcs := by
  have read : ScenarioFile.parse (scenarioValue c vs npcs).text =
      .ok ⟨c, ks, npcs.map WrittenNpc.script⟩ :=
    Reader.ofText_readsAs (readsAs_scenarioValue spell)
  have people : (npcs.map WrittenNpc.script).isEmpty = false := by
    rw [List.isEmpty_map, List.isEmpty_eq_false_iff]
    exact some
  refine ⟨⟨(npcs.map WrittenNpc.script).map ScriptNpc.toNpc, c, ks⟩, ?_, rfl, rfl, ?_⟩
  · rw [Scenario.ofText, read]
    dsimp only
    rw [ScenarioFile.build, people]
    rfl
  · rw [List.map_map, List.forall₂_map_right_iff, List.forall₂_same]
    exact fun w _ => w.describes

/-! ## What keys survive -/

/-- What is true of keys and collections in files. -/
structure SurviveFiles : Prop where
  /-- A list of keys is read back from its text. -/
  keys (ks : List Key) : Reader.ofText Key.readList (Key.listText ks) = .ok ks
  /-- Collections are read back from their text, each kind with its items in order. -/
  collections (c : Collections) : Collections.parse c.text = .ok c
  /-- An integer and its decimal text are one key. -/
  same {n : Int} {v : Value} : Decimal.minSigned ≤ n → n ≤ Decimal.maxSigned →
    v = .ofInt n ∨ v = .string (Decimal.ofInt n) →
    Reader.ofText Key.readList (Value.array [v]).text = .ok [⟨Decimal.ofInt n⟩]
  /-- Different integers are different keys. -/
  integers {m n : Int} : Decimal.minSigned ≤ m → m ≤ Decimal.maxSigned →
    Decimal.minSigned ≤ n → n ≤ Decimal.maxSigned → m ≠ n →
    ∃ k l, Reader.ofText Key.readList (Value.array [.ofInt m, .ofInt n]).text = .ok [k, l] ∧ k ≠ l
  /-- Different texts are different keys. -/
  texts {s t : String} : s ≠ t →
    ∃ k l, Reader.ofText Key.readList (Value.array [.string s, .string t]).text = .ok [k, l] ∧ k ≠ l
  /-- Entry keys of either spelling lead to the nodes that have their texts as names of members, and
  to no other ones. -/
  scenario {c : Collections} {vs : List Value} {ks : List Key} {npcs : List WrittenNpc} :
    List.Forall₂ Key.Spells vs ks → npcs ≠ [] →
    ∃ s, Scenario.ofText (scenarioValue c vs npcs).text = .ok s ∧ s.collections = c ∧
      s.entryKeys = ks ∧ List.Forall₂ WrittenNpc.Describes npcs s.npcs

/-- Keys and collections survive files. -/
theorem keys_survive_files : SurviveFiles := by
  have read {vs : List Value} {ks : List Key} (spell : List.Forall₂ Key.Spells vs ks) :
      Reader.ofText Key.readList (Value.array vs).text = .ok ks :=
    Reader.ofText_readsAs (Key.readsAs_readList spell)
  exact {
    keys := fun ks => read (Key.spells_toValue ks)
    collections := fun c => Reader.ofText_readsAs (c.readsAs_toValue _)
    same := by
      rintro n v least most (rfl | rfl)
      · exact read (.cons (.number least most) .nil)
      · exact read (.cons .text .nil)
    integers := fun least most least' most' different =>
      ⟨_, _, read (.cons (.number least most) (.cons (.number least' most') .nil)),
        mt Key.ofInt_inj.1 different⟩
    texts := fun different =>
      ⟨_, _, read (.cons .text (.cons .text .nil)), mt (congrArg Key.name) different⟩
    scenario := ofText_scenarioValue }

/-- A character with two nodes, whose names are the same number and different texts. -/
def twoSevens : WrittenNpc where
  name := "guide"
  members := [("7", .object [("text", .string "seven")]), ("07", .object [("text", .string "bond")])]
  nodes := [("7", ⟨.line "seven", [], none⟩), ("07", ⟨.line "bond", [], none⟩)]
  read := .cons ⟨rfl, readsAs_line "seven" _⟩ (.cons ⟨rfl, readsAs_line "bond" _⟩ .nil)

/-- The number 7 and the text "07" in a list lead to the two nodes of the names "7" and "07". -/
theorem twoSevens_survive : ∃ s,
    Scenario.ofText (scenarioValue .empty [.ofInt 7, .string "07"] [twoSevens]).text = .ok s ∧
      s.entryKeys = [.ofInt 7, ⟨"07"⟩] ∧ List.Forall₂ WrittenNpc.Describes [twoSevens] s.npcs := by
  obtain ⟨s, built, -, keys, npcs⟩ := keys_survive_files.scenario (c := .empty)
    (.cons (.number (n := 7) (by decide) (by decide)) (.cons (.text (s := "07")) .nil))
    (List.cons_ne_nil twoSevens [])
  exact ⟨s, built, keys, npcs⟩

end Parley
