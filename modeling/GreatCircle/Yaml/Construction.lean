/-
# The values of a graph

The values of nodes are made from the root outwards.  A list, a set or an object is empty at first
and gets its parts later, so that it can be inside of itself: the empty ones are filled in the
order in which they were met, and bad values are found in this order too.  Other values are made
at once.

`Graph.toContainers` fills them all, each at the place of its node.
-/
import GreatCircle.Data.SetOrder
import GreatCircle.Yaml.Graph
import GreatCircle.Yaml.ScalarValue

namespace GreatCircle.Yaml

/-- The value of a node, or where it will be. -/
inductive Part where
  /-- A value. -/
  | value (v : Value)
  /-- A double that is no number, and the node that it comes from: it is the same key only as
  itself. -/
  | undefined (id : NodeId)
  /-- What the node at a place contains. -/
  | container (id : NodeId)

/-- What a node contains. -/
inductive Container where
  /-- A list. -/
  | list (items : List Part)
  /-- A list of pairs. -/
  | pairs (items : List (Part × Part))
  /-- A set. -/
  | set (items : List Value)
  /-- Keys with their values, each key once. -/
  | object (fields : List (Value × Part))

/-- A part as a key: what it has in common with other parts that are the same key. -/
inductive Mark where
  /-- The key that a value is. -/
  | key (k : Value.Key)
  /-- A double that is no number, from a node. -/
  | undefined (id : NodeId)
deriving DecidableEq

/-- The mark of a part with its value; what contains others is no key. -/
def Part.mark? : Part → Option (Mark × Value)
  | value v => v.key?.map fun k => (.key k, v)
  | undefined id => some (.undefined id, .float (0.0 / 0.0))
  | container _ => none

/-- Fields after a value was set for a key.  A key that is there already keeps its place and its
own value. -/
def setMarked (mark : Mark) (key : Value) (part : Part) :
    List (Mark × Value × Part) → List (Mark × Value × Part)
  | [] => [(mark, key, part)]
  | (m, k, old) :: rest =>
    if m = mark then (m, k, part) :: rest else (m, k, old) :: setMarked mark key part rest

/-- The values that have been made so far. -/
structure Construction where
  /-- The graph. -/
  graph : Graph
  /-- A bound on the depth of merging. -/
  mergeBound : Nat
  /-- The values of nodes. -/
  parts : Array (Option Part)
  /-- What nodes contain. -/
  containers : Array (Option Container)
  /-- The nodes whose containers were met, in this order. -/
  met : Array NodeId := #[]

namespace Construction

/-- A part of the making of values. -/
abbrev Making (α : Type) := StateT Construction (Except Fault) α

/-- Nothing has been made of a graph. -/
def start (g : Graph) : Construction where
  graph := g
  mergeBound := 3 * g.fieldCount + 4
  parts := Array.replicate g.nodes.size none
  containers := Array.replicate g.nodes.size none

/-- The value of a scalar of a kind at a place. -/
def scalarOf (g : Graph) (tag : Tag) (id : NodeId) : Except Fault Part := do
  let text ← g.scalarText (g.nodes.size + 1) id
  if tag = .moment ∧ (g.fields? id).isSome then throw .momentOfObject
  match ← tag.read text with
  | .float x => return if x.isNaN && !isUndefinedWord text then .undefined id else .value (.float x)
  | v => return .value v

/-- The value of a node whose value has not been made. -/
def newPart (id : NodeId) : Making Part := do
  let tag := (← get).graph.tag id
  if tag.hasParts then
    modify fun s => { s with met := s.met.push id }
    return .container id
  else if [Tag.merge, .defaultKey, .unknown].contains tag then throw .malformed
  else scalarOf (← get).graph tag id

/-- The value of a node. -/
def partOf (id : NodeId) : Making Part := do
  match (← get).parts[id]? with
  | some (some part) => return part
  | _ =>
    let part ← newPart id
    modify fun s => { s with parts := s.parts.setIfInBounds id (some part) }
    return part

/-- The one field of an object, as a pair. -/
def pairOf (id : NodeId) : Making (Part × Part) := do
  match (← get).graph.fields? id with
  | some [(key, value)] =>
    let first ← partOf key
    return (first, ← partOf value)
  | _ => throw .malformed

/-- The fields of an object, after those that are merged into it. -/
def fieldsOf (id : NodeId) : Making (List (Mark × Value × Part)) := do
  let g := (← get).graph
  if (g.fields? id).isNone then throw .malformed
  let (_, merged) ← (Graph.mergeFields (← get).mergeBound id []).run g
  modify fun s => { s with graph := merged }
  ((merged.fields? id).getD []).foldlM (fun fields (keyId, valueId) => do
    let some (mark, key) := (← partOf keyId).mark? | throw .malformed
    return setMarked mark key (← partOf valueId) fields) []

/-- What the node at a place contains. -/
def containerOf (id : NodeId) : Making Container := do
  let g := (← get).graph
  match g.tag id with
  | .object => return .object ((← fieldsOf id).map Prod.snd)
  | .set => return .set (SetOrder.sort ((← fieldsOf id).map fun f => f.2.1))
  | tag =>
    let some items := g.items? id | throw .malformed
    if tag = .pairs then return .pairs (← items.mapM pairOf)
    return .list (← items.mapM partOf)

/-- Fills what has been met, from a number in that order on.  No node is met twice, so that the
number of nodes is bound enough. -/
def fill : Nat → Nat → Making Unit
  | 0, _ => return ()
  | bound + 1, index => do
    let some id := (← get).met[index]? | return ()
    let container ← containerOf id
    modify fun s => { s with containers := s.containers.setIfInBounds id (some container) }
    fill bound (index + 1)

end Construction

/-- What the nodes of a graph contain, and the value of its root. -/
def Graph.toContainers (g : Graph) (root : NodeId) :
    Except Fault (Part × Array (Option Container)) := do
  let (part, done) ← (do
    let part ← Construction.partOf root
    Construction.fill (g.nodes.size + 1) 0
    return part : Construction.Making Part).run (Construction.start g)
  return (part, done.containers)

end GreatCircle.Yaml
