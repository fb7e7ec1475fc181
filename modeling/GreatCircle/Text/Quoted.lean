/-
# Texts in quotes

`quote` writes a text between single quotes, or between double quotes if that saves escaping
a single quote.  Backslashes, line ends and tabs have escapes of their own; every other
code point that is not printable is written as its number in base sixteen.
-/
import GreatCircle.Text.Basic
import GreatCircle.Text.Hexadecimal
import GreatCircle.Text.Printable

namespace GreatCircle.Text

/-- The number of a code point in base sixteen, after a backslash and a letter for its width. -/
def escapeCode (code : Nat) : List Char :=
  if code < 0x100 then ['\\', 'x'] ++ hex 2 code
  else if code < 0x10000 then ['\\', 'u'] ++ hex 4 code
  else ['\\', 'U'] ++ hex 8 code

/-- One character between quotes of the given kind. -/
def quoteChar (mark c : Char) : List Char :=
  if c = mark ∨ c = '\\' then ['\\', c]
  else if c = '\n' then ['\\', 'n']
  else if c = '\r' then ['\\', 'r']
  else if c = '\t' then ['\\', 't']
  else if isPrintable c then [c]
  else escapeCode c.toNat

/-- One code point between quotes of the given kind. -/
def quotePoint (mark : Char) (c : CodePoint) : List Char :=
  match c.char? with
  | some ch => quoteChar mark ch
  | none => escapeCode c.val

/-- The quote to put around a text: a single one, unless the text holds single quotes only. -/
def quoteMark (t : Text) : Char :=
  if t.points.contains '\'' && !t.points.contains '"' then '"' else '\''

/-- The text in quotes. -/
def quote (t : Text) : String :=
  let mark := t.quoteMark
  String.ofList (mark :: (t.points.flatMap (quotePoint mark) ++ [mark]))

/-- One byte between quotes of the given kind. -/
def quoteByte (mark : Char) (b : UInt8) : List Char :=
  if 0x20 ≤ b.toNat ∧ b.toNat < 0x7F then quoteChar mark (Char.ofNat b.toNat)
  else if b = 0x9 ∨ b = 0xA ∨ b = 0xD then quoteChar mark (Char.ofNat b.toNat)
  else escapeCode b.toNat

/-- Bytes in quotes, with a letter before these. -/
def quoteBytes (bytes : List UInt8) : String :=
  let mark := quoteMark (ofChars (bytes.map fun b => Char.ofNat b.toNat))
  String.ofList ('b' :: mark :: (bytes.flatMap (quoteByte mark) ++ [mark]))

/-- The text as a string, in which a half is written as its number. -/
def shown (t : Text) : String :=
  String.ofList (t.points.flatMap fun c => (c.char?.map ([·])).getD (escapeCode c.val))

end GreatCircle.Text
