/-
# Reading tokens as a graph

`Graph.ofTokens` reads the one document of a text; a second one is a fault.

A node may carry a name and be referred to later on, also from inside of itself.  A reference
stands for the node itself, which therefore has its place in the graph before its parts are read.
-/
import GreatCircle.Yaml.Graph
import GreatCircle.Yaml.PlainForm
import GreatCircle.Yaml.Token

namespace GreatCircle.Yaml

namespace Graph

/-- What is left to read, and what the document has said so far. -/
structure Source where
  /-- The tokens that are left. -/
  tokens : List Token
  /-- The fault of the text after these. -/
  fault : Option Fault
  /-- The nodes so far. -/
  graph : Graph := {}
  /-- The meanings of tag handles. -/
  handles : List (List Char × List Char) := []
  /-- The nodes that have names. -/
  anchors : List (List Char × NodeId) := []

/-- A part of the reading of a document. -/
abbrev Reading (α : Type) := StateT Source (Except Fault) α

/-- The next token; none at the end.  A fault of the text is met in the place of the token that
it keeps from being cut. -/
def peek : Reading (Option Token) := do
  match (← get).tokens, (← get).fault with
  | token :: _, _ => return some token
  | [], some fault => throw fault
  | [], none => return none

/-- Passes over a token. -/
def skip : Reading Unit := modify fun s => { s with tokens := s.tokens.drop 1 }

/-- The next token is one of those given. -/
def sees (tokens : List Token) : Reading Bool := return (← peek).any (tokens.contains ·)

/-- The text does not follow the grammar. -/
def refuse {α : Type} : Reading α := throw .malformed

/-- Passes over a token that has to come next. -/
def expect (token : Token) : Reading Unit := do
  if ← sees [token] then skip else refuse

/-- A new node. -/
def create (tag : Tag) (content : Content) : Reading NodeId := modifyGet fun s =>
  let (id, graph) := s.graph.add ⟨tag, content⟩
  (id, { s with graph := graph })

/-- The node of a scalar that is left out. -/
def createEmpty : Reading NodeId := create .null (.scalar "")

/-- What comes before a node: its name and its tag, in either order. -/
structure Properties where
  /-- The name. -/
  anchor : Option (List Char) := none
  /-- The full tag. -/
  tag : Option (List Char) := none

/-- The name of the node that comes next, if it has one. -/
def takeAnchor : Reading (Option (List Char)) := do
  match ← peek with
  | some (.anchor name) =>
    skip
    return some name
  | _ => return none

/-- The tag of the node that comes next, if it has one: its handle and the rest. -/
def takeTag : Reading (Option (Option (List Char) × List Char)) := do
  match ← peek with
  | some (.tag handle suffix) =>
    skip
    return some (handle, suffix)
  | _ => return none

/-- The full tag of a handle and the rest. -/
def resolveTag : Option (List Char) × List Char → Reading (List Char)
  | (none, suffix) => return suffix
  | (some handle, suffix) => do
    match (← get).handles.find? fun h => h.1 == handle with
    | some (_, stem) => return stem ++ suffix
    | none => refuse

/-- The name and the tag of the node that comes next. -/
def takeProperties : Reading Properties := do
  let (anchor, tag) ← match ← takeAnchor with
    | some name => pure (some name, ← takeTag)
    | none => do
      let tag ← takeTag
      let anchor ← if tag.isSome then takeAnchor else pure none
      pure (anchor, tag)
  return ⟨anchor, ← tag.mapM resolveTag⟩

/-- The tag leaves the kind of value to the node. -/
def Properties.isOpen (p : Properties) : Bool := p.tag.all (· = ['!'])

/-- The kind of a list or an object. -/
def Properties.kind (p : Properties) (default : Tag) : Tag :=
  if p.isOpen then default else (p.tag.map Tag.ofName).getD default

/-- The kind of a scalar: that of its tag, else what a plain scalar stands for, else a text. -/
def Properties.scalarKind (p : Properties) (text : Text) (plain : Bool) : Tag :=
  match p.tag with
  | none => if plain then Tag.ofPlain text else .text
  | some ['!'] => Tag.ofPlain text
  | some name => Tag.ofName name

/-- A new node with its name.  Names that are taken may not be given again. -/
def Properties.create (p : Properties) (tag : Tag) (content : Content) : Reading NodeId := do
  match p.anchor with
  | none => Graph.create tag content
  | some name =>
    if (← get).anchors.any fun a => a.1 == name then refuse
    let id ← Graph.create tag content
    modify fun s => { s with anchors := (name, id) :: s.anchors }
    return id

/-- A list whose items are read after it has got its place. -/
def Properties.createList (p : Properties) (read : Reading (List NodeId)) : Reading NodeId := do
  let id ← p.create (p.kind .list) (.list [])
  let items ← read
  modify fun s => { s with graph := s.graph.setContent id (.list items) }
  return id

/-- An object whose fields are read after it has got its place. -/
def Properties.createObject (p : Properties) (read : Reading (List (NodeId × NodeId))) :
    Reading NodeId := do
  let id ← p.create (p.kind .object) (.object [])
  let fields ← read
  modify fun s => { s with graph := s.graph.setContent id (.object fields) }
  return id

/-- Where a node stands decides which nodes may come. -/
inductive Context where
  /-- Inside brackets. -/
  | flow
  /-- In a block. -/
  | block
  /-- As a key or a value of an object written as a block: there the dashes of a list need no
  deeper indentation. -/
  | field
deriving DecidableEq

mutual

/-- The node that comes next.  The first argument bounds the depth of the reading. -/
def read : Nat → Context → Reading NodeId
  | 0, _ => refuse
  | fuel + 1, context => do
    if let some (.alias name) ← peek then
      skip
      match (← get).anchors.find? fun a => a.1 == name with
      | some (_, id) => return id
      | none => refuse
    else
      let p ← takeProperties
      match ← peek with
      | some (.scalar text plain) =>
        skip
        p.create (p.scalarKind text plain) (.scalar text)
      | some .flowListStart => p.createList do
        skip
        readFlowItems fuel true
      | some .flowObjectStart => p.createObject do
        skip
        readFlowFields fuel true
      | token =>
        if token = some .blockListStart && context != .flow then
          p.createList do
            skip
            readItems fuel
        else if token = some .blockObjectStart && context != .flow then
          p.createObject do
            skip
            readFields fuel
        else if token = some .blockEntry && context = .field then
          p.createList (readOpenItems fuel)
        else if p.anchor.isSome || p.tag.isSome then
          p.create (p.scalarKind "" true) (.scalar "")
        else refuse

/-- The items of a list written as a block. -/
def readItems : Nat → Reading (List NodeId)
  | 0 => refuse
  | fuel + 1 => do
    if ← sees [.blockEntry] then
      skip
      let item ← if ← sees [.blockEntry, .blockEnd] then createEmpty else read fuel .block
      return item :: (← readItems fuel)
    else
      expect .blockEnd
      return []

/-- The items of a list whose dashes stand at the indentation of the object around it. -/
def readOpenItems : Nat → Reading (List NodeId)
  | 0 => refuse
  | fuel + 1 => do
    if ← sees [.blockEntry] then
      skip
      let item ← if ← sees [.blockEntry, .key, .value, .blockEnd] then createEmpty
        else read fuel .block
      return item :: (← readOpenItems fuel)
    else return []

/-- The fields of an object written as a block. -/
def readFields : Nat → Reading (List (NodeId × NodeId))
  | 0 => refuse
  | fuel + 1 => do
    if ← sees [.key] then
      skip
      let stops := [Token.key, .value, .blockEnd]
      let key ← if ← sees stops then createEmpty else read fuel .field
      let value ← if ← sees [.value] then do
          skip
          if ← sees stops then createEmpty else read fuel .field
        else createEmpty
      return (key, value) :: (← readFields fuel)
    else
      expect .blockEnd
      return []

/-- The value after a key inside brackets; it may be left out before one of the given tokens. -/
def readFlowValue : Nat → List Token → Reading NodeId
  | 0, _ => refuse
  | fuel + 1, stops => do
    if ← sees [.value] then
      skip
      if ← sees stops then createEmpty else read fuel .flow
    else createEmpty

/-- The items of a list in square brackets.  An item may be a single key with its value. -/
def readFlowItems : Nat → Bool → Reading (List NodeId)
  | 0, _ => refuse
  | fuel + 1, first => do
    if ← sees [.flowListEnd] then
      skip
      return []
    if !first then expect .flowEntry
    if ← sees [.key] then
      skip
      let key ← if ← sees [.value, .flowEntry, .flowListEnd] then createEmpty
        else read fuel .flow
      let value ← readFlowValue fuel [.flowEntry, .flowListEnd]
      let item ← create .object (.object [(key, value)])
      return item :: (← readFlowItems fuel false)
    else if ← sees [.flowListEnd] then
      skip
      return []
    else
      let item ← read fuel .flow
      return item :: (← readFlowItems fuel false)

/-- The fields of an object in braces. -/
def readFlowFields : Nat → Bool → Reading (List (NodeId × NodeId))
  | 0, _ => refuse
  | fuel + 1, first => do
    if ← sees [.flowObjectEnd] then
      skip
      return []
    if !first then expect .flowEntry
    if ← sees [.key] then
      skip
      let key ← if ← sees [.value, .flowEntry, .flowObjectEnd] then createEmpty
        else read fuel .flow
      let value ← readFlowValue fuel [.flowEntry, .flowObjectEnd]
      return (key, value) :: (← readFlowFields fuel false)
    else if ← sees [.flowObjectEnd] then
      skip
      return []
    else
      let key ← read fuel .flow
      let value ← createEmpty
      return (key, value) :: (← readFlowFields fuel false)

end

/-- The handles that have a meaning unless a directive says otherwise. -/
def defaultHandles : List (List Char × List Char) :=
  [(['!'], ['!']), (['!', '!'], Tag.stem)]

/-- The directives before a document give meanings to handles.  There is at most one about the
version, and at most one for a handle. -/
def readDirectives : Nat → Bool → List (List Char × List Char) → Reading Unit
  | 0, _, _ => refuse
  | fuel + 1, versioned, handles => do
    match ← peek with
    | some (.versionDirective major) =>
      skip
      if versioned ∨ major ≠ 1 then refuse
      readDirectives fuel true handles
    | some (.tagDirective handle stem) =>
      skip
      if handles.any fun h => h.1 == handle then refuse
      readDirectives fuel versioned ((handle, stem) :: handles)
    | some .otherDirective =>
      skip
      readDirectives fuel versioned handles
    | _ => modify fun s => { s with handles := handles ++ defaultHandles }

/-- The marks for the end of a document that come next are passed over. -/
def skipDocumentEnds : Reading Unit :=
  modify fun s => { s with tokens := s.tokens.dropWhile (· = .documentEnd) }

/-- The token begins a document that says where it begins. -/
def startsDocument : Token → Bool
  | .versionDirective _ | .tagDirective .. | .otherDirective | .documentStart => true
  | _ => false

/-- The start of a document that says where it begins. -/
def readDocumentStart (bound : Nat) : Reading Unit := do
  readDirectives bound false []
  expect .documentStart

/-- The root of the document of a text, if the text has one, and no second document.  The
argument bounds the number of tokens and the depth of the reading. -/
def readDocument (bound : Nat) : Reading (Option NodeId) := do
  let some first ← peek | return none
  let isExplicit := startsDocument first
  if isExplicit then readDocumentStart bound
  else modify fun s => { s with handles := defaultHandles }
  let next ← peek
  let isEmpty := isExplicit && next.all fun token => startsDocument token || token = .documentEnd
  let root ← if isEmpty then createEmpty else read bound .block
  skipDocumentEnds
  match ← peek with
  | none => return some root
  | some _ =>
    readDocumentStart bound
    refuse

/-- The graph of a text with its root; a text without a document has none. -/
def ofTokens (tokens : Tokens) : Except Fault (Option (NodeId × Graph)) := do
  let bound := 4 * tokens.tokens.length + 8
  let (root, source) ← (readDocument bound).run { tokens := tokens.tokens, fault := tokens.fault }
  return root.map fun id => (id, source.graph)

end Graph

end GreatCircle.Yaml
