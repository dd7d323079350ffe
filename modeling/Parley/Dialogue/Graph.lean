import Parley.Dialogue.Error
import Parley.Dialogue.Node

/-!
# Conversation graphs

The nodes of one character under their keys. Jumps may dangle: that a node is missing is found when
it is visited.
-/

namespace Parley

/-- Nodes under their keys. -/
structure Graph where
  nodes : Dictionary Node

namespace Graph

/-- No nodes. -/
def empty : Graph := ⟨.empty⟩

/-- Puts a node under a key, in the place of an older one. -/
def insert (g : Graph) (key : Key) (node : Node) : Graph := ⟨g.nodes.insert key.name node⟩

/-- The node under a key. -/
def get? (g : Graph) (key : Key) : Option Node := g.nodes.get? key.name

/-- A key has the node that was put under it last. -/
theorem get?_insert (g : Graph) (key other : Key) (node : Node) :
    (g.insert key node).get? other = if other = key then some node else g.get? other := by
  by_cases same : other = key
  · subst same
    rw [if_pos rfl]
    exact g.nodes.get?_insert_self other.name node
  · rw [if_neg same]
    exact g.nodes.get?_insert_of_ne (fun e => same (congrArg Key.mk e)) node

/-- The node under a key, or the error that there is none. -/
def lookup (g : Graph) (key : Key) : Except DialogueError Node :=
  match g.get? key with
  | some node => .ok node
  | none => .error (.unknownNode key)

/-- Whether a key has a node. -/
def contains (g : Graph) (key : Key) : Bool := (g.get? key).isSome

/-- The keys in order. -/
def keys (g : Graph) : List Key := g.nodes.keys.map (⟨·⟩)

/-- The number of nodes. -/
def size (g : Graph) : Nat := g.nodes.size

end Graph

/-- A character that can be talked to. -/
structure Npc where
  identity : String
  state : State
  graph : Graph

/-- What the nodes of a character see of it. -/
def Npc.speaker (npc : Npc) : Speaker := ⟨npc.identity, npc.state⟩

end Parley
