/-
# A place in a text

A `Cursor` is what is left of a text together with the place where it begins.  Columns matter,
since YAML nests by indentation.  Line ends of the file have been made line feeds before; three
rarer characters end a line too.
-/
import GreatCircle.Yaml.Fault

namespace GreatCircle.Yaml

/-- The character ends a line. -/
def isBreak (c : Char) : Bool := c = '\n' || c = '\x85' || c = '\u2028' || c = '\u2029'

/-- A blank or a tab. -/
def isSpaceOrTab (c : Char) : Bool := c = ' ' || c = '\t'

/-- The end of the text, a line end or a blank. -/
def endsWord (c : Option Char) : Bool := c.all fun c => isBreak c || c = ' '

/-- The end of the text, a line end, a blank or a tab. -/
def endsToken (c : Option Char) : Bool := c.all fun c => isBreak c || isSpaceOrTab c

/-- The end of the text or a line end. -/
def endsLine (c : Option Char) : Bool := c.all isBreak

/-- What is left of a text, and where that is. -/
structure Cursor where
  /-- The characters that are left. -/
  rest : List Char
  /-- How many characters came before. -/
  index : Nat := 0
  /-- How many lines came before. -/
  line : Nat := 0
  /-- How many characters of the line came before. -/
  column : Nat := 0

namespace Cursor

/-- The next character. -/
def peek (c : Cursor) : Option Char := c.rest.head?

/-- The character after `n` more. -/
def peekAt (c : Cursor) (n : Nat) : Option Char := c.rest[n]?

/-- The next character is one of a kind. -/
def sees (c : Cursor) (p : Char → Bool) : Bool := c.peek.any p

/-- The cursor after one character.  A byte order mark takes no column. -/
def advance (c : Cursor) : Cursor :=
  match c.rest with
  | [] => c
  | ch :: rest =>
    if isBreak ch then ⟨rest, c.index + 1, c.line + 1, 0⟩
    else ⟨rest, c.index + 1, c.line, if ch = '\uFEFF' then c.column else c.column + 1⟩

/-- The cursor after `n` characters. -/
def advanceBy (c : Cursor) : Nat → Cursor
  | 0 => c
  | n + 1 => c.advance.advanceBy n

/-- The characters of a kind that come next, and the cursor after them. -/
def takeWhile (c : Cursor) (p : Char → Bool) : List Char × Cursor :=
  let run := c.rest.takeWhile p
  (run, c.advanceBy run.length)

/-- The cursor after the characters of a kind that come next. -/
def skipWhile (c : Cursor) (p : Char → Bool) : Cursor := (c.takeWhile p).2

/-- The line end that comes next, and the cursor after it.  Only the rarer two stay as they
are. -/
def takeBreak (c : Cursor) : List Char × Cursor :=
  match c.peek with
  | some ch =>
    if isBreak ch then ([if ch = '\x85' then '\n' else ch], c.advance) else ([], c)
  | none => ([], c)

/-- A line of three equal marks on its own, which separates documents. -/
def seesMarker (c : Cursor) (mark : Char) : Bool :=
  c.rest.take 3 = [mark, mark, mark] && endsToken (c.peekAt 3)

/-- A separator of documents of either kind. -/
def seesSeparator (c : Cursor) : Bool := c.seesMarker '-' || c.seesMarker '.'

/-- Takes a step again and again while it says so, but no more than once for each character of
`text` and once more. -/
def iterateOver {σ : Type} (step : Cursor → σ → Except Fault (Bool × Cursor × σ))
    (text : List Char) (c : Cursor) (state : σ) : Except Fault (Cursor × σ) :=
  match step c state with
  | .error fault => .error fault
  | .ok (false, next, newState) => .ok (next, newState)
  | .ok (true, next, newState) =>
    match text with
    | [] => .error .malformed
    | _ :: rest => iterateOver step rest next newState

/-- Takes a step again and again while it says so.  Every step but the last moves the cursor on,
so there are no more steps than characters and one. -/
def iterate {σ : Type} (step : Cursor → σ → Except Fault (Bool × Cursor × σ)) (c : Cursor)
    (state : σ) : Except Fault (Cursor × σ) :=
  iterateOver step c.rest c state

end Cursor

end GreatCircle.Yaml
