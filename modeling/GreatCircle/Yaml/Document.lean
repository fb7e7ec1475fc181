/-
# Values of YAML documents

`Yaml.read` reads a text as one value.  Of two fields with the same key the later one counts.
The fields of an object that is merged in come before its own, so that these win.

A value may contain itself.  It is unrolled until it would begin again.  Where a value is only
passed through on the way to its parts it does not count as begun; this holds of the outer levels
of a document, down to `Unrolling.passedLevels`.
-/
import GreatCircle.Yaml.Construction
import GreatCircle.Yaml.Reader

namespace GreatCircle.Yaml

namespace Unrolling

/-- How many levels of a document are passed through: the document itself, the values of its
fields, and the items or fields of these. -/
def passedLevels : Nat := 3

/-- What has been unrolled: the values that do not contain themselves, by their nodes. -/
abbrev Memory := Array (Option Value)

/-- A value, and whether it is the same wherever it stands: nothing in it begins again. -/
abbrev Unrolled := Value × Bool

/-- A value made of others, which is the same everywhere if these are. -/
def combine (make : List Value → Value) (parts : List Unrolled) : Unrolled :=
  (make (parts.map Prod.fst), parts.all Prod.snd)

/-- The container is an object. -/
def isObject : Container → Bool
  | .object _ => true
  | _ => false

/-- The value of a part inside of the containers in `inside`, the innermost first; `passed` levels
from here on are passed through.  The first number is a bound on the depth. -/
def unroll (containers : Array (Option Container)) :
    Nat → Nat → List NodeId → Part → StateM Memory Unrolled
  | _, _, _, .value v => return (v, true)
  | _, _, _, .undefined _ => return (.float (0.0 / 0.0), true)
  | 0, _, _, .container _ => return (.null, true)
  | bound + 1, passed, inside, .container id => do
    let some (some container) := containers[id]? | return (.null, true)
    if let some (some v) := (← get)[id]? then return (v, true)
    if inside.contains id then return (.again (isObject container), false)
    let part := unroll containers bound (passed - 1) (if passed = 0 then id :: inside else inside)
    let unrolled ← match container with
      | .list items => do
        let items ← items.mapM part
        pure (combine .list items)
      | .pairs items => do
        let pairs ← items.mapM fun (a, b) => do
          let first ← part a
          let second ← part b
          return (Value.pair first.1 second.1, first.2 && second.2)
        pure (combine .list pairs)
      | .set items => pure (.set items, true)
      | .object fields => do
        let values ← fields.mapM fun f => part f.2
        let keys := fields.map Prod.fst
        pure (combine (fun vs => .object (keys.zip vs)) values)
    if unrolled.2 then modify fun memory => memory.setIfInBounds id (some unrolled.1)
    return unrolled

end Unrolling

/-- The value of a graph with a root. -/
def Graph.toValue (g : Graph) (root : NodeId) : Except Fault Value := do
  let (part, containers) ← g.toContainers root
  let bound := g.nodes.size + Unrolling.passedLevels + 1
  let unrolling := Unrolling.unroll containers bound Unrolling.passedLevels [] part
  return (unrolling.run (Array.replicate g.nodes.size none)).1.1

/-- The value of a text.  A text without a document is nothing. -/
def read (text : List Char) : Except Fault Value := do
  match ← Graph.ofTokens (Tokens.ofText text) with
  | some (root, graph) => graph.toValue root
  | none => return .null

end GreatCircle.Yaml
