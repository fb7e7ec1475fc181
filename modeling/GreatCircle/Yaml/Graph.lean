/-
# Graphs of nodes

A document is a graph of nodes: scalars, lists and objects, each with a tag for the kind of value
it stands for.  The items of a list and the fields of an object are given by their places in the
graph, since a node may be referred to from several others, and even from inside of itself.
-/
import GreatCircle.Text.Basic
import GreatCircle.Yaml.Fault
import GreatCircle.Yaml.Tag

namespace GreatCircle.Yaml

/-- The place of a node in a graph. -/
abbrev NodeId := Nat

/-- What a node is made of. -/
inductive Content where
  /-- A text. -/
  | scalar (text : Text)
  /-- Items in order. -/
  | list (items : List NodeId)
  /-- Keys with their values in order. -/
  | object (fields : List (NodeId × NodeId))

/-- A node of a document. -/
structure Node where
  /-- The kind of value that the node stands for. -/
  tag : Tag
  /-- What the node is made of. -/
  content : Content

/-- Nodes at their places. -/
structure Graph where
  /-- The nodes. -/
  nodes : Array Node := #[]

namespace Graph

/-- The node at a place. -/
def node? (g : Graph) (id : NodeId) : Option Node := g.nodes[id]?

/-- The kind of the node at a place. -/
def tag (g : Graph) (id : NodeId) : Tag := ((g.node? id).map Node.tag).getD .unknown

/-- The items of the list at a place. -/
def items? (g : Graph) (id : NodeId) : Option (List NodeId) :=
  match g.node? id with
  | some ⟨_, .list items⟩ => some items
  | _ => none

/-- The fields of the object at a place. -/
def fields? (g : Graph) (id : NodeId) : Option (List (NodeId × NodeId)) :=
  match g.node? id with
  | some ⟨_, .object fields⟩ => some fields
  | _ => none

/-- The graph with one more node, and the place of that. -/
def add (g : Graph) (node : Node) : NodeId × Graph := (g.nodes.size, ⟨g.nodes.push node⟩)

/-- The graph in which the node at a place is made of something else. -/
def setContent (g : Graph) (id : NodeId) (content : Content) : Graph :=
  ⟨g.nodes.modify id fun node => { node with content := content }⟩

/-- The graph in which the node at a place is of another kind. -/
def setTag (g : Graph) (id : NodeId) (tag : Tag) : Graph :=
  ⟨g.nodes.modify id fun node => { node with tag := tag }⟩

/-- The number of fields in all objects. -/
def fieldCount (g : Graph) : Nat :=
  g.nodes.foldl (fun n node =>
    match node.content with
    | .object fields => n + fields.length
    | _ => n) 0

/-- The text that the node at a place stands for as a scalar.  An object stands for its default
value; `bound` is a bound on how often that leads on to another object. -/
def scalarText (g : Graph) : Nat → NodeId → Except Fault Text
  | 0, _ => .error .endless
  | bound + 1, id =>
    match g.node? id with
    | some ⟨_, .scalar text⟩ => .ok text
    | some ⟨_, .object fields⟩ =>
      match fields.find? fun f => g.tag f.1 = .defaultKey with
      | some (_, value) => g.scalarText bound value
      | none => .error .malformed
    | _ => .error .malformed

/-- A node that was added is at its place. -/
@[simp] theorem node?_add (g : Graph) (node : Node) :
    (g.add node).2.node? (g.add node).1 = some node := by
  simp [add, node?]

/-- Adding a node leaves the others where they are. -/
theorem node?_add_of_lt (g : Graph) (node : Node) (id : NodeId) (h : id < g.nodes.size) :
    (g.add node).2.node? id = g.node? id := by
  simp [add, node?, Array.getElem?_push, Nat.ne_of_lt h]

/-! ### Merging -/

/-- The fields of a list in two parts, and the value under the first key between these that
merges other objects in. -/
def splitAtMerge (g : Graph) :
    List (NodeId × NodeId) → Option (List (NodeId × NodeId) × NodeId × List (NodeId × NodeId))
  | [] => none
  | (key, value) :: rest =>
    if g.tag key = .merge then some ([], value, rest)
    else (g.splitAtMerge rest).map fun (before, found, after) =>
      ((key, value) :: before, found, after)

/-- The graph in which the keys of a default value among some fields are plain texts. -/
def settleDefaultKeys (g : Graph) (fields : List (NodeId × NodeId)) : Graph :=
  fields.foldl (fun g f => if g.tag f.1 = .defaultKey then g.setTag f.1 .text else g) g

mutual

/-- Puts the fields of the objects that are merged into the object at a place before its own
fields.  Those in `merged` have been found already.  Every merging key that is met is dropped, so
that three times the number of all fields bounds the depth. -/
def mergeFields : Nat → NodeId → List (NodeId × NodeId) → StateT Graph (Except Fault) Unit
  | 0, _, _ => throw .malformed
  | bound + 1, id, merged => do
    let some fields := (← get).fields? id | throw .malformed
    match (← get).splitAtMerge fields with
    | some (before, value, after) => do
      modify fun g => g.setContent id (.object (before ++ after))
      let more ← fieldsToMerge bound value
      mergeFields bound id (merged ++ more)
    | none => do
      modify fun g => g.settleDefaultKeys fields
      if !merged.isEmpty then modify fun g => g.setContent id (.object (merged ++ fields))

/-- The fields that the value of a merging key adds: those of an object, or those of all objects
of a list, the first of which win. -/
def fieldsToMerge : Nat → NodeId → StateT Graph (Except Fault) (List (NodeId × NodeId))
  | 0, _ => throw .malformed
  | bound + 1, id => do
    match (← get).node? id with
    | some ⟨_, .object _⟩ => fieldsOfMerged bound id
    | some ⟨_, .list items⟩ => do
      let parts ← items.mapM (fieldsOfMerged bound)
      return parts.reverse.flatten
    | _ => throw .malformed

/-- The fields of an object that is merged in, after those that are merged into it. -/
def fieldsOfMerged : Nat → NodeId → StateT Graph (Except Fault) (List (NodeId × NodeId))
  | 0, _ => throw .malformed
  | bound + 1, id => do
    mergeFields bound id []
    return ((← get).fields? id).getD []

end

end Graph

end GreatCircle.Yaml
