/-
# Writing JSON text

`Json.pretty` writes a value over several lines with an indentation of two blanks for each level;
`Json.compact` writes it on one line.  Only printable ASCII characters appear: all others are
escaped, those beyond sixteen bits in two halves.  What is no JSON is written as a text.
-/
import GreatCircle.Data.Value

namespace GreatCircle.Json

/-- The format of doubles in JSON text. -/
def number : NumberFormat := { undefined := "NaN", infinity := "Infinity" }

/-- The escape of a code of sixteen bits. -/
def escapeUnit (code : Nat) : List Char := ['\\', 'u'] ++ Text.hex 4 code

/-- One code point inside a text. -/
def escapePoint (c : CodePoint) : List Char :=
  if c = '"' then ['\\', '"']
  else if c = '\\' then ['\\', '\\']
  else if c = '\n' then ['\\', 'n']
  else if c = '\r' then ['\\', 'r']
  else if c = '\t' then ['\\', 't']
  else if c = '\x0c' then ['\\', 'f']
  else if c = '\x08' then ['\\', 'b']
  else if 0x20 ≤ c.val ∧ c.val < 0x7F then [Char.ofNat c.val]
  else if c.val < 0x10000 then escapeUnit c.val
  else
    escapeUnit (0xD800 + (c.val - 0x10000) / 0x400) ++
      escapeUnit (0xDC00 + (c.val - 0x10000) % 0x400)

/-- A text between its quotes. -/
def quoted (t : Text) : String :=
  String.ofList ('"' :: (t.points.flatMap escapePoint ++ ['"']))

/-- How the parts of lists and objects are separated. -/
structure Layout where
  /-- What stands before a part, given how deep the part is. -/
  lineStart : Nat → String
  /-- What stands between two parts. -/
  comma : String

/-- One line for every part. -/
def Layout.indented : Layout :=
  ⟨fun depth => "\n" ++ String.ofList (List.replicate (2 * depth) ' '), ","⟩

/-- All on one line. -/
def Layout.oneLine : Layout := ⟨fun _ => "", ", "⟩

/-- Parts between brackets; without parts the brackets stand together. -/
def Layout.enclose (layout : Layout) (depth : Nat) (left right : String)
    (parts : List String) : String :=
  if parts.isEmpty then left ++ right
  else
    left ++ (layout.comma.intercalate (parts.map (layout.lineStart (depth + 1) ++ ·))) ++
      layout.lineStart depth ++ right

mutual

/-- A value that stands at some depth. -/
def render (layout : Layout) (depth : Nat) : Value → String
  | .null => "null"
  | .bool b => if b then "true" else "false"
  | .int n => toString n
  | .float x => number.shortest x
  | .text t => quoted t
  | .moment m => quoted m.text
  | .list items => layout.enclose depth "[" "]" (renderItems layout (depth + 1) items)
  | .object fields =>
    layout.enclose depth "\x7b" "\x7d" (renderFields layout (depth + 1) fields)
  | v => quoted v.written

/-- The items of a list. -/
def renderItems (layout : Layout) (depth : Nat) : List Value → List String
  | [] => []
  | v :: rest => render layout depth v :: renderItems layout depth rest

/-- The fields of an object. -/
def renderFields (layout : Layout) (depth : Nat) : List (Value × Value) → List String
  | [] => []
  | (key, v) :: rest =>
    (quoted key.shown ++ ": " ++ render layout depth v) :: renderFields layout depth rest

end

/-- A value over several lines. -/
def pretty (v : Value) : String := render Layout.indented 0 v

/-- A value on one line. -/
def compact (v : Value) : String := render Layout.oneLine 0 v

end GreatCircle.Json
