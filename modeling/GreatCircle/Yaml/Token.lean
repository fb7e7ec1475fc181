/-
# Tokens of YAML text

`Tokens.ofText` cuts a text into tokens.  Beside the marks and scalars that are written there are
tokens for what is only seen from the layout: where a block begins and ends, and which scalar
turns out to be a key once a colon follows it.

The cut is made by a `Scan`, which keeps track of the indentations of the open blocks, of how
many brackets are open, and of the last place on the current line, for each depth of brackets,
where a key could have begun.
-/
import GreatCircle.Text.DecimalDigit
import GreatCircle.Yaml.ScalarText

namespace GreatCircle.Yaml

/-- A token of YAML text. -/
inductive Token where
  /-- A directive about the version, with its first number. -/
  | versionDirective (major : Nat)
  /-- A directive that gives a meaning to a tag handle. -/
  | tagDirective (handle stem : List Char)
  /-- A directive that means nothing here. -/
  | otherDirective
  /-- Three dashes: a document begins. -/
  | documentStart
  /-- Three dots: a document ends. -/
  | documentEnd
  /-- A list written as a block begins. -/
  | blockListStart
  /-- An object written as a block begins. -/
  | blockObjectStart
  /-- A block ends. -/
  | blockEnd
  /-- An opening square bracket. -/
  | flowListStart
  /-- A closing square bracket. -/
  | flowListEnd
  /-- An opening brace. -/
  | flowObjectStart
  /-- A closing brace. -/
  | flowObjectEnd
  /-- A dash before an item. -/
  | blockEntry
  /-- A comma between items. -/
  | flowEntry
  /-- A key comes next. -/
  | key
  /-- A value comes next. -/
  | value
  /-- A reference to a named node. -/
  | alias (name : List Char)
  /-- The name of the node that comes next. -/
  | anchor (name : List Char)
  /-- The tag of the node that comes next: a handle if there is one, and the rest. -/
  | tag (handle : Option (List Char)) (suffix : List Char)
  /-- A scalar, and whether it is plain. -/
  | scalar (text : Text) (plain : Bool)
deriving DecidableEq

/-- The tokens of a text up to its first fault, if it has one. -/
structure Tokens where
  /-- The tokens that do not depend on what comes after them. -/
  tokens : List Token
  /-- What ends the tokens before the text ends. -/
  fault : Option Fault

/-- A place where a key may have begun. -/
structure KeyPlace where
  /-- How many tokens came before. -/
  tokens : Nat
  /-- How many characters came before. -/
  index : Nat
  /-- The line. -/
  line : Nat
  /-- The column. -/
  column : Nat
  /-- By the indentation there has to be a key. -/
  isRequired : Bool

/-- A text that has been cut into tokens in part. -/
structure Scan where
  /-- What is left of the text. -/
  cursor : Cursor
  /-- The tokens so far, the last first. -/
  tokens : List Token := []
  /-- How many tokens these are. -/
  count : Nat := 0
  /-- How many brackets are open. -/
  depth : Nat := 0
  /-- The column of the innermost open block; -1 outside of all. -/
  indent : Int := -1
  /-- The columns of the blocks around it, the innermost first. -/
  outer : List Int := []
  /-- A key may begin here. -/
  allowsKey : Bool := true
  /-- For each depth of brackets, the place where a key may have begun. -/
  places : List (Nat × KeyPlace) := []

namespace Scan

/-- A letter, a digit, a dash or an underscore. -/
def isNameChar (c : Char) : Bool :=
  c.isAlphanum || c = '-' || c = '_'

/-- Nothing is inside brackets. -/
def inBlock (s : Scan) : Bool := s.depth == 0

/-- One more token. -/
def push (s : Scan) (token : Token) : Scan :=
  { s with tokens := token :: s.tokens, count := s.count + 1 }

/-- One more token, put after the first `position` tokens. -/
def insert (s : Scan) (position : Nat) (token : Token) : Scan :=
  let later := s.count - position
  { s with
    tokens := s.tokens.take later ++ token :: s.tokens.drop later
    count := s.count + 1 }

/-- The place where a key may have begun at the current depth. -/
def place? (s : Scan) : Option KeyPlace :=
  (s.places.find? fun p => p.1 == s.depth).map Prod.snd

/-- Gives up the place where a key may have begun at the current depth. -/
def dropPlace (s : Scan) : Except Fault Scan :=
  match s.place? with
  | some place =>
    if place.isRequired then .error .malformed
    else .ok { s with places := s.places.filter fun p => p.1 != s.depth }
  | none => .ok s

/-- Notes that a key may begin here, if one may. -/
def savePlace (s : Scan) : Except Fault Scan := do
  if s.allowsKey then
    let s ← s.dropPlace
    let c := s.cursor
    let place : KeyPlace :=
      ⟨s.count, c.index, c.line, c.column, s.inBlock && s.indent == c.column⟩
    return { s with places := (s.depth, place) :: s.places }
  else return s

/-- How far a key may reach. -/
def keyReach : Nat := 1024

/-- Gives up the places where a key began too long ago: a key has to stay on one line. -/
def dropStale (s : Scan) : Except Fault Scan :=
  let isStale (p : Nat × KeyPlace) : Bool :=
    p.2.line != s.cursor.line || decide (keyReach < s.cursor.index - p.2.index)
  if s.places.any fun p => isStale p && p.2.isRequired then .error .malformed
  else .ok { s with places := s.places.filter fun p => !isStale p }

/-- Closes blocks, given the column of the current one and those around it, until the current
one is not deeper than `column`: the number of closed blocks, and what is left. -/
def unwind (column : Int) (indent : Int) : List Int → Nat × Int × List Int
  | [] => (0, indent, [])
  | next :: outer =>
    if column < indent then
      let (closed, rest) := unwind column next outer
      (closed + 1, rest)
    else (0, indent, next :: outer)

/-- Closes the blocks that are indented beyond a column.  Inside brackets layout means
nothing. -/
def closeBlocks (s : Scan) (column : Int) : Scan :=
  if s.inBlock then
    let (closed, indent, outer) := unwind column s.indent s.outer
    { s with
      indent := indent
      outer := outer
      tokens := List.replicate closed Token.blockEnd ++ s.tokens
      count := s.count + closed }
  else s

/-- Opens a block at a column if that is deeper than the current one; the token that says so is
put at a position among the tokens. -/
def openBlock (s : Scan) (column : Nat) (position : Nat) (token : Token) : Scan :=
  if s.indent < column then
    { s with indent := column, outer := s.indent :: s.outer }.insert position token
  else s

/-- Moves the cursor on and adds a token. -/
def take (s : Scan) (count : Nat) (token : Token) : Scan :=
  { s with cursor := s.cursor.advanceBy count }.push token

/-- The scan up to the next token: blanks, comments and line ends are passed over.  After a line
end a key may begin. -/
def skipToToken (s : Scan) : Except Fault Scan := do
  let start := if s.cursor.index = 0 && s.cursor.sees (· = '\uFEFF') then s.cursor.advance
    else s.cursor
  let (cursor, allowsKey) ← Cursor.iterate (fun c allowsKey => do
    let c := c.skipWhile (· = ' ')
    let c := if c.sees (· = '#') then c.skipWhile (fun ch => !isBreak ch) else c
    let (lineEnd, next) := c.takeBreak
    if lineEnd.isEmpty then return (false, c, allowsKey)
    return (true, next, allowsKey || s.inBlock)) start s.allowsKey
  return { s with cursor := cursor, allowsKey := allowsKey }

/-! ### Names and tags -/

/-- A name after its mark. -/
def takeName (c : Cursor) : Except Fault (List Char × Cursor) := do
  let (name, next) := c.takeWhile isNameChar
  if name.isEmpty then throw .malformed
  if !(endsToken next.peek || next.sees ("?:,]\x7d%@\x60".contains ·)) then throw .malformed
  return (name, next)

/-- The handle of a tag: an exclamation mark, or a name between two. -/
def takeHandle (c : Cursor) : Except Fault (List Char × Cursor) := do
  if !c.sees (· = '!') then throw .malformed
  let c := c.advance
  if c.sees (· = ' ') then return (['!'], c)
  let (name, next) := c.takeWhile isNameChar
  if !next.sees (· = '!') then throw .malformed
  return ('!' :: name ++ ['!'], next.advance)

/-- The bytes that are written in base sixteen, each after a percent sign. -/
def escapedBytes : List Char → Option (List UInt8)
  | '%' :: a :: b :: rest => do
    let byte ← Text.hexValue? [a, b]
    let more ← escapedBytes rest
    return byte.toUInt8 :: more
  | '%' :: _ => none
  | _ => some []

/-- The characters of a tag, some of them written as bytes. -/
def takeTagText (c : Cursor) : Except Fault (List Char × Cursor) := do
  let (after, text) ← Cursor.iterate (fun c text => do
    if c.sees (· = '%') then
      let some bytes := escapedBytes c.rest | throw .malformed
      let some s := String.fromUTF8? ⟨bytes.toArray⟩ | throw .malformed
      return (true, c.advanceBy (3 * bytes.length), text ++ s.toList)
    else if c.sees fun ch => ch.isAlphanum || "-;/?:@&=+$,_.!~*'()[]".contains ch then
      return (true, c.advance, text ++ c.peek.toList)
    else return (false, c, text)) c []
  if after.index = c.index then throw .malformed
  return (text, after)

/-- A tag: written in full between angle brackets, a lone exclamation mark, or a handle with the
rest of the tag. -/
def takeTag (c : Cursor) : Except Fault (Token × Cursor) := do
  let (token, next) ←
    if c.peekAt 1 = some '<' then do
      let (text, next) ← takeTagText (c.advanceBy 2)
      if !next.sees (· = '>') then throw .malformed
      pure (Token.tag none text, next.advance)
    else if endsToken (c.peekAt 1) then pure (Token.tag none ['!'], c.advance)
    else do
      let word := (c.rest.drop 1).takeWhile fun ch => !endsWord (some ch)
      let (handle, next) ← if word.contains '!' then takeHandle c else pure (['!'], c.advance)
      let (text, next) ← takeTagText next
      pure (Token.tag (some handle) text, next)
  if !endsWord next.peek then throw .malformed
  return (token, next)

/-! ### Directives -/

/-- A number of a version. -/
def takeNumber (c : Cursor) : Except Fault (Nat × Cursor) := do
  let (digits, next) := c.takeWhile Char.isDigit
  if digits.isEmpty then throw .malformed
  if Numeral.digitLimit < digits.length then throw (.tooManyDigits digits.length)
  return (Text.decimalValue digits, next)

/-- A directive, from its percent sign to the end of its line. -/
def takeDirective (c : Cursor) : Except Fault (Token × Cursor) := do
  let blank (ch : Char) : Bool := ch = ' '
  let (name, c) := c.advance.takeWhile isNameChar
  if name.isEmpty || !endsWord c.peek then throw .malformed
  let (token, c) ←
    if name = "YAML".toList then do
      let (major, c) ← takeNumber (c.skipWhile blank)
      if !c.sees (· = '.') then throw .malformed
      let (_, c) ← takeNumber c.advance
      if !endsWord c.peek then throw .malformed
      pure (Token.versionDirective major, c)
    else if name = "TAG".toList then do
      let (handle, c) ← takeHandle (c.skipWhile blank)
      if !c.sees blank then throw .malformed
      let (text, c) ← takeTagText (c.skipWhile blank)
      if !endsWord c.peek then throw .malformed
      pure (Token.tagDirective handle text, c)
    else pure (Token.otherDirective, c.skipWhile (fun ch => !isBreak ch))
  return (token, ← c.takeRestOfLine)

/-! ### The next token -/

/-- A directive or a separator of documents closes all blocks. -/
def closeDocument (s : Scan) : Except Fault Scan := do
  return { ← (s.closeBlocks (-1)).dropPlace with allowsKey := false }

/-- An opening bracket may begin a key, and a key may begin after it. -/
def openFlow (s : Scan) (token : Token) : Except Fault Scan := do
  let s ← s.savePlace
  return { s with depth := s.depth + 1, allowsKey := true }.take 1 token

/-- A closing bracket. -/
def closeFlow (s : Scan) (token : Token) : Except Fault Scan := do
  let s ← s.dropPlace
  if s.depth = 0 then throw .malformed
  return { s with depth := s.depth - 1, allowsKey := false }.take 1 token

/-- A dash or a question mark: outside brackets it may open a block. -/
def takeIndicator (s : Scan) (opening token : Token) (allowsKey : Bool) : Except Fault Scan := do
  if s.inBlock && !s.allowsKey then throw .malformed
  let s := if s.inBlock then s.openBlock s.cursor.column s.count opening else s
  let s ← s.dropPlace
  return { s with allowsKey := allowsKey }.take 1 token

/-- A colon.  If a key may have begun before, it did; otherwise the key is empty. -/
def takeColon (s : Scan) : Except Fault Scan := do
  match s.place? with
  | some place =>
    let s := { s with places := s.places.filter fun p => p.1 != s.depth }
    let s := s.insert place.tokens .key
    let s := if s.inBlock then s.openBlock place.column place.tokens .blockObjectStart else s
    return { s with allowsKey := false }.take 1 .value
  | none => s.takeIndicator .blockObjectStart .value s.inBlock

/-- A name after its mark, which may begin a key. -/
def takeNamed (s : Scan) (token : List Char → Token) : Except Fault Scan := do
  let s ← s.savePlace
  let (name, next) ← takeName s.cursor.advance
  return { s with cursor := next, allowsKey := false }.push (token name)

/-- The character can begin a plain scalar. -/
def beginsPlain (s : Scan) : Bool :=
  match s.cursor.peek with
  | none => false
  | some c =>
    !(endsToken (some c) || "-?:,[]\x7b\x7d#&*!|>'\"%@\x60".contains c) ||
      (!endsToken (s.cursor.peekAt 1) && (c = '-' || (s.inBlock && (c = '?' || c = ':'))))

/-- The scan after the scalar that comes next. -/
def takeScalar (s : Scan) (c : Char) : Except Fault Scan := do
  if s.inBlock && (c = '|' || c = '>') then
    let s ← s.dropPlace
    let (text, next) ← s.cursor.advance.takeBlock (c = '>') s.indent
    return { s with cursor := next, allowsKey := true }.push (.scalar text false)
  else if c = '\'' || c = '"' then
    let s ← s.savePlace
    let (text, next) ← s.cursor.advance.takeQuoted (c = '"')
    return { s with cursor := next, allowsKey := false }.push (.scalar text false)
  else if s.beginsPlain then
    let s ← s.savePlace
    let (text, newLine, next) ← s.cursor.takePlain (!s.inBlock) (s.indent + 1)
    return { s with cursor := next, allowsKey := newLine }.push (.scalar text true)
  else throw .malformed

/-- The scan after the token that begins with the next character. -/
def takeToken (s : Scan) (c : Char) : Except Fault Scan := do
  let atLineStart := s.cursor.column == 0
  let standsAlone := endsToken (s.cursor.peekAt 1)
  if c = '%' && atLineStart then
    let s ← s.closeDocument
    let (token, next) ← takeDirective s.cursor
    return { s with cursor := next }.push token
  else if atLineStart && s.cursor.seesMarker '-' then
    return (← s.closeDocument).take 3 .documentStart
  else if atLineStart && s.cursor.seesMarker '.' then
    return (← s.closeDocument).take 3 .documentEnd
  else if c = '[' then s.openFlow .flowListStart
  else if c = '\x7b' then s.openFlow .flowObjectStart
  else if c = ']' then s.closeFlow .flowListEnd
  else if c = '\x7d' then s.closeFlow .flowObjectEnd
  else if c = ',' then
    return { ← s.dropPlace with allowsKey := true }.take 1 .flowEntry
  else if c = '-' && standsAlone then s.takeIndicator .blockListStart .blockEntry true
  else if c = '?' && (!s.inBlock || standsAlone) then
    s.takeIndicator .blockObjectStart .key s.inBlock
  else if c = ':' && (!s.inBlock || standsAlone) then s.takeColon
  else if c = '*' then s.takeNamed .alias
  else if c = '&' then s.takeNamed .anchor
  else if c = '!' then
    let s ← s.savePlace
    let (token, next) ← takeTag s.cursor
    return { s with cursor := next, allowsKey := false }.push token
  else s.takeScalar c

/-- One more token, or the tokens for the end of the text; the flag says that the text goes
on. -/
def advance (s : Scan) : Except Fault (Bool × Scan) := do
  let ready ← (← s.skipToToken).dropStale
  let ready := ready.closeBlocks ready.cursor.column
  match ready.cursor.peek with
  | some c => return (true, ← ready.takeToken c)
  | none => return (false, ← (ready.closeBlocks (-1)).dropPlace)

/-- The tokens before the first place where a key may have begun: what comes after them can
only be told when it is known whether it did. -/
def settled (s : Scan) : List Token :=
  let count := s.places.foldl (fun n p => min n p.2.tokens) s.count
  (s.tokens.drop (s.count - count)).reverse

/-- The tokens of the rest of a text.  Every token but those of its end takes up characters, so
that the bound is never met. -/
def finish : Nat → Scan → Tokens
  | 0, s => ⟨s.settled, some .malformed⟩
  | bound + 1, s =>
    match s.dropStale with
    | .error fault => ⟨s.settled, some fault⟩
    | .ok s =>
      match s.advance with
      | .error fault => ⟨s.settled, some fault⟩
      | .ok (true, next) => next.finish bound
      | .ok (false, next) => ⟨next.tokens.reverse, none⟩

end Scan

/-- The character may stand in a text: control characters may not, save for tabs and line
ends. -/
def isAllowed (c : Char) : Bool :=
  let n := c.toNat
  decide (n = 0x9 ∨ n = 0xA ∨ n = 0xD ∨ (0x20 ≤ n ∧ n ≤ 0x7E) ∨ n = 0x85 ∨
    (0xA0 ≤ n ∧ n ≤ 0xFFFD) ∨ 0x10000 ≤ n)

/-- The tokens of a text. -/
def Tokens.ofText (text : List Char) : Tokens :=
  if text.all isAllowed then Scan.finish (text.length + 2) { cursor := { rest := text } }
  else ⟨[], some .malformed⟩

end GreatCircle.Yaml
