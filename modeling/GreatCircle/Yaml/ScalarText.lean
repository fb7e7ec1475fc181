/-
# The texts of YAML scalars

A scalar is written plain, between quotes, or as an indented block.  Each function here reads
the text of a scalar from a cursor and returns the cursor after it.  A line end inside a plain
or quoted scalar becomes a blank, and further line ends stay as they are.

A text that is still growing is kept in reverse.
-/
import GreatCircle.Text.Hexadecimal
import GreatCircle.Yaml.Cursor

namespace GreatCircle.Yaml

namespace Cursor

/-! ### Quoted scalars -/

/-- What a character stands for after a backslash. -/
def escaped? : Char → Option Char
  | '0' => some '\x00'
  | 'a' => some '\x07'
  | 'b' => some '\x08'
  | 't' => some '\t'
  | '\t' => some '\t'
  | 'n' => some '\n'
  | 'v' => some '\x0b'
  | 'f' => some '\x0c'
  | 'r' => some '\r'
  | 'e' => some '\x1b'
  | ' ' => some ' '
  | '"' => some '"'
  | '\\' => some '\\'
  | '/' => some '/'
  | 'N' => some '\x85'
  | '_' => some '\xa0'
  | 'L' => some '\u2028'
  | 'P' => some '\u2029'
  | _ => none

/-- How many digits of a code follow a letter after a backslash. -/
def codeWidth? : Char → Option Nat
  | 'x' => some 2
  | 'u' => some 4
  | 'U' => some 8
  | _ => none

/-- The line ends that follow a line end inside quotes, with the blanks before and after them
dropped.  A separator of documents may not come here. -/
def takeBreaks (c : Cursor) : Except Fault (List Char × Cursor) := do
  let (after, breaks) ← iterate (fun c breaks => do
    if c.seesSeparator then throw .malformed
    let c := c.skipWhile isSpaceOrTab
    let (lineEnd, next) := c.takeBreak
    return (!lineEnd.isEmpty, next, breaks ++ lineEnd)) c []
  return (breaks, after)

/-- The text that a line end and the further line ends after it become. -/
def fold (lineEnd breaks : List Char) : List Char :=
  if lineEnd ≠ ['\n'] then lineEnd ++ breaks else if breaks.isEmpty then [' '] else breaks

/-- The blanks inside quotes.  They count unless a line ends after them. -/
def takeQuotedSpace (c : Cursor) : Except Fault (List Char × Cursor) := do
  let (blanks, c) := c.takeWhile isSpaceOrTab
  if c.rest.isEmpty then throw .malformed
  let (lineEnd, next) := c.takeBreak
  if lineEnd.isEmpty then return (blanks, c)
  let (breaks, next) ← next.takeBreaks
  return (fold lineEnd breaks, next)

/-- What follows a backslash between double quotes: a letter, a code, or the end of a line. -/
def takeEscape (c : Cursor) : Except Fault (List CodePoint × Cursor) := do
  let some ch := c.peek | throw .malformed
  if let some image := escaped? ch then return ([CodePoint.ofChar image], c.advance)
  if let some width := codeWidth? ch then
    let digits := c.advance.rest.take width
    let some code := Text.hexValue? digits | throw .malformed
    if digits.length ≠ width then throw .malformed
    let some image := CodePoint.ofNat? code
      | throw (if code < Nat.pow 2 31 then .noCharacter else .hugeCode)
    return ([image], c.advanceBy (width + 1))
  let (lineEnd, next) := c.takeBreak
  if lineEnd.isEmpty then throw .malformed
  let (breaks, after) ← next.takeBreaks
  return (breaks.map CodePoint.ofChar, after)

/-- The character stands for itself between quotes of a kind. -/
def isOrdinary (double : Bool) (ch : Char) : Bool :=
  !(isSpaceOrTab ch || isBreak ch || ch = (if double then '"' else '\'') ||
    (double && ch = '\\'))

/-- The text of a scalar after its opening quote, up to its closing one.  Between single quotes a
quote is written twice; between double quotes a backslash begins an escape. -/
def takeQuoted (double : Bool) (c : Cursor) : Except Fault (Text × Cursor) := do
  let mark := if double then '"' else '\''
  let (after, text) ← iterate (fun c (text : List CodePoint) => do
    let some ch := c.peek | throw .malformed
    if ch = mark then
      if !double && c.peekAt 1 = some mark then
        return (true, c.advanceBy 2, CodePoint.ofChar mark :: text)
      else return (false, c.advance, text)
    else if isSpaceOrTab ch || isBreak ch then
      let (more, next) ← c.takeQuotedSpace
      return (true, next, (more.map CodePoint.ofChar).reverse ++ text)
    else if double && ch = '\\' then
      let (more, next) ← c.advance.takeEscape
      return (true, next, more.reverse ++ text)
    else
      let (run, next) := c.takeWhile (isOrdinary double)
      return (true, next, (run.map CodePoint.ofChar).reverse ++ text)) c []
  return (⟨text.reverse⟩, after)

/-! ### Plain scalars -/

/-- What a plain scalar has come to. -/
structure Plain where
  /-- The text so far, in reverse. -/
  text : List Char := []
  /-- The blanks after it, which count if more text follows. -/
  space : List Char := []
  /-- A line has ended since the last word. -/
  newLine : Bool := false

/-- The blanks and line ends after a word of a plain scalar: the text they become, whether a
line ended, and the cursor after them.  Before a separator of documents they are dropped. -/
def takePlainSpace (c : Cursor) : Except Fault (List Char × Bool × Cursor) := do
  let (blanks, c) := c.takeWhile (· = ' ')
  let (lineEnd, next) := c.takeBreak
  if lineEnd.isEmpty then return (blanks, false, c)
  if next.seesSeparator then return ([], true, next)
  let (after, breaks, ended) ← iterate (fun c (breaks, _) => do
    if c.sees (· = ' ') then return (true, c.advance, breaks, false)
    let (more, next) := c.takeBreak
    if more.isEmpty then return (false, c, breaks, false)
    return (!next.seesSeparator, next, breaks ++ more, next.seesSeparator)) next ([], false)
  return (if ended then [] else fold lineEnd breaks, true, after)

/-- The word of a plain scalar that comes next.  It ends at a blank, at a colon before a blank,
and inside brackets also at marks that mean something there. -/
def plainWord (inFlow : Bool) : List Char → List Char
  | [] => []
  | c :: rest =>
    if endsToken (some c) then []
    else if c = ':' &&
        (endsToken rest.head? || (inFlow && rest.head?.any (",[]\x7b\x7d".contains ·)))
      then []
    else if inFlow && ",?[]\x7b\x7d".contains c then []
    else c :: plainWord inFlow rest

/-- The text of a plain scalar whose further lines are indented by at least `indent`; the flag
says whether a line has ended after the last word. -/
def takePlain (inFlow : Bool) (indent : Int) (c : Cursor) :
    Except Fault (Text × Bool × Cursor) := do
  let (after, plain) ← iterate (fun c (plain : Plain) => do
    if c.sees (· = '#') then return (false, c, plain)
    let word := plainWord inFlow c.rest
    if word.isEmpty then return (false, c, plain)
    let c := c.advanceBy word.length
    let (space, newLine, next) ← c.takePlainSpace
    let plain : Plain := ⟨word.reverse ++ plain.space.reverse ++ plain.text, space, newLine⟩
    let stops := space.isEmpty || next.sees (· = '#') || (!inFlow && (next.column : Int) < indent)
    return (!stops, next, plain)) c {}
  return (Text.ofChars plain.text.reverse, plain.newLine, after)

/-! ### Block scalars -/

/-- What becomes of the line ends after a block. -/
inductive Chomping where
  /-- One line end stays. -/
  | clip
  /-- No line end stays. -/
  | strip
  /-- All line ends stay. -/
  | keep
deriving DecidableEq

/-- The sign for what becomes of the last line ends. -/
def chomping? : Option Char → Option Chomping
  | some '+' => some .keep
  | some '-' => some .strip
  | _ => none

/-- The digit for an indentation, which may not be zero. -/
def takeIndent (c : Cursor) : Except Fault (Option Nat × Cursor) := do
  match c.peek with
  | some d =>
    if d.isDigit then
      if d = '0' then throw .malformed
      return (some (d.toNat - '0'.toNat), c.advance)
    else return (none, c)
  | none => return (none, c)

/-- The signs in the first line of a block, in either order. -/
def takeBlockHeader (c : Cursor) : Except Fault (Chomping × Option Nat × Cursor) := do
  let (chomping, indent, c) ← match chomping? c.peek with
    | some chomping => do
      let (indent, c) ← c.advance.takeIndent
      pure (chomping, indent, c)
    | none => do
      let (indent, c) ← c.takeIndent
      match indent, chomping? c.peek with
        | some _, some chomping => pure (chomping, indent, c.advance)
        | _, _ => pure (Chomping.clip, indent, c)
  if !endsWord c.peek then throw .malformed
  return (chomping, indent, c)

/-- The rest of a line on which only blanks and a comment may stand. -/
def takeRestOfLine (c : Cursor) : Except Fault Cursor := do
  let c := c.skipWhile (· = ' ')
  let c := if c.sees (· = '#') then c.skipWhile (fun ch => !isBreak ch) else c
  if !endsLine c.peek then throw .malformed
  return c.takeBreak.2

/-- Empty lines before a block, and the deepest indentation met there. -/
def takeLeadingBreaks (c : Cursor) : Except Fault (List Char × Nat × Cursor) := do
  let (after, breaks, deepest) ← iterate (fun c (breaks, deepest) => do
    if c.sees (· = ' ') then
      let next := c.advance
      return (true, next, breaks, max deepest next.column)
    let (lineEnd, next) := c.takeBreak
    return (!lineEnd.isEmpty, next, breaks ++ lineEnd, deepest)) c ([], 0)
  return (breaks, deepest, after)

/-- The cursor after the blanks that come next, up to a column. -/
def skipIndent (indent : Nat) (c : Cursor) : Cursor :=
  c.advanceBy ((c.rest.take (indent - c.column)).takeWhile (· = ' ')).length

/-- Empty lines, and the indentation of the line after them. -/
def takeBlockBreaks (indent : Nat) (c : Cursor) : Except Fault (List Char × Cursor) := do
  let (after, breaks) ← iterate (fun c breaks => do
    let (lineEnd, next) := c.takeBreak
    if lineEnd.isEmpty then return (false, c, breaks)
    return (true, next.skipIndent indent, breaks ++ lineEnd)) (c.skipIndent indent) []
  return (breaks, after)

/-- What a block scalar has come to. -/
structure Block where
  /-- The text so far, in reverse. -/
  text : List Char := []
  /-- The end of the last line. -/
  lineEnd : List Char := []
  /-- The empty lines after it. -/
  breaks : List Char := []

/-- The text of a block scalar after the sign that opens it.  In a folded block the end of a line
becomes a blank, unless one of the lines around it is indented further. -/
def takeBlock (folded : Bool) (parentIndent : Int) (c : Cursor) :
    Except Fault (Text × Cursor) := do
  let (chomping, explicit, c) ← c.takeBlockHeader
  let c ← c.takeRestOfLine
  let least := max 1 (parentIndent + 1).toNat
  let (indent, breaks, c) ← match explicit with
    | none => do
      let (breaks, deepest, c) ← c.takeLeadingBreaks
      pure (max least deepest, breaks, c)
    | some n => do
      let indent := least + n - 1
      let (breaks, c) ← c.takeBlockBreaks indent
      pure (indent, breaks, c)
  let inside (c : Cursor) : Bool := c.column == indent && !c.rest.isEmpty
  let (after, block) ← iterate (fun c (block : Block) => do
    if !inside c then return (false, c, block)
    let flush := !c.sees isSpaceOrTab
    let (line, c) := c.takeWhile fun ch => !isBreak ch
    let (lineEnd, c) := c.takeBreak
    let (breaks, next) ← c.takeBlockBreaks indent
    let text := line.reverse ++ block.breaks.reverse ++ block.text
    if inside next then
      let joint :=
        if folded && lineEnd = ['\n'] && flush && !next.sees isSpaceOrTab then
          if breaks.isEmpty then [' '] else []
        else lineEnd
      return (true, next, ⟨joint.reverse ++ text, [], breaks⟩)
    else return (false, next, ⟨text, lineEnd, breaks⟩)) c ⟨[], [], breaks⟩
  let last := if chomping = .strip then [] else block.lineEnd
  let trailing := if chomping = .keep then block.breaks else []
  return (Text.ofChars (block.text.reverse ++ last ++ trailing), after)

end Cursor

end GreatCircle.Yaml
