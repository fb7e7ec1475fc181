/-
# Tags

A node stands for a value of some kind: its `Tag`.  A tag is written before a node, or follows
from the form of the node.
-/
namespace GreatCircle.Yaml

/-- The kind of value that a node stands for. -/
inductive Tag where
  /-- Nothing. -/
  | null
  /-- A truth value. -/
  | bool
  /-- A whole number. -/
  | int
  /-- A double. -/
  | float
  /-- Bytes. -/
  | bytes
  /-- A day or a point of time. -/
  | moment
  /-- A text. -/
  | text
  /-- A list. -/
  | list
  /-- A list of pairs, with or without order. -/
  | pairs
  /-- A set. -/
  | set
  /-- An object. -/
  | object
  /-- The key under which other objects are merged in. -/
  | merge
  /-- The key of a default value. -/
  | defaultKey
  /-- Any other kind, which has no values here. -/
  | unknown
deriving DecidableEq, Repr

namespace Tag

/-- What the full names of tags begin with. -/
def stem : List Char := "tag:yaml.org,2002:".toList

/-- The kind of a name after the stem. -/
def ofShortName (name : String) : Tag :=
  match name with
  | "null" => null
  | "bool" => bool
  | "int" => int
  | "float" => float
  | "binary" => bytes
  | "timestamp" => moment
  | "str" => text
  | "seq" => list
  | "omap" | "pairs" => pairs
  | "set" => set
  | "map" => object
  | "merge" => merge
  | "value" => defaultKey
  | _ => unknown

/-- The kind that a full name names. -/
def ofName (name : List Char) : Tag :=
  if stem.isPrefixOf name then ofShortName (String.ofList (name.drop stem.length)) else unknown

/-- Values of the kind have parts. -/
def hasParts : Tag → Bool
  | list | pairs | set | object => true
  | _ => false

end Tag

end GreatCircle.Yaml
