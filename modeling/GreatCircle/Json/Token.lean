/-
# Tokens of JSON text

`Token.ofText` cuts a text into tokens.  The first thing that is no token ends the list with
`Token.junk`, so that whoever reads the tokens in order meets the faults in order too.

Beyond the standard the words `NaN`, `Infinity` and `-Infinity` are numbers.
-/
import GreatCircle.Decimal.Reading
import GreatCircle.Text.Basic
import GreatCircle.Text.DecimalDigit
import GreatCircle.Text.Hexadecimal

namespace GreatCircle.Json

/-- A token of JSON text. -/
inductive Token where
  /-- An opening square bracket. -/
  | openList
  /-- A closing square bracket. -/
  | closeList
  /-- An opening brace. -/
  | openObject
  /-- A closing brace. -/
  | closeObject
  /-- A comma. -/
  | comma
  /-- A colon. -/
  | colon
  /-- The word for no value. -/
  | null
  /-- A word for a truth value. -/
  | bool (b : Bool)
  /-- A number without point and power, in its digits. -/
  | int (negative : Bool) (digits : List Char)
  /-- A number with a point or a power, or one that has no digits. -/
  | float (x : Float)
  /-- A text. -/
  | text (t : Text)
  /-- What is no token. -/
  | junk

/-- The character that a letter stands for after a backslash. -/
def escaped? : Char → Option Char
  | '"' => some '"'
  | '\\' => some '\\'
  | '/' => some '/'
  | 'b' => some '\x08'
  | 'f' => some '\x0c'
  | 'n' => some '\n'
  | 'r' => some '\r'
  | 't' => some '\t'
  | _ => none

/-- The codes of a text up to its closing quote, and how many characters the text takes with
that quote.  Control characters have to be escaped. -/
def textCodes : List Char → Option (List Nat × Nat)
  | [] => none
  | '"' :: _ => some ([], 1)
  | '\\' :: 'u' :: a :: b :: c :: d :: rest => do
    let code ← Text.hexValue? [a, b, c, d]
    let (codes, taken) ← textCodes rest
    return (code :: codes, taken + 6)
  | '\\' :: c :: rest => do
    let image ← escaped? c
    let (codes, taken) ← textCodes rest
    return (image.toNat :: codes, taken + 2)
  | c :: rest =>
    if c.toNat < 0x20 then none
    else do
      let (codes, taken) ← textCodes rest
      return (c.toNat :: codes, taken + 1)

/-- The code points of a list of codes.  Two halves of a character make one; a half on its own
stays. -/
def joinHalves : List Nat → List CodePoint
  | [] => []
  | [code] => (CodePoint.ofNat? code).toList
  | high :: low :: rest =>
    if 0xD800 ≤ high ∧ high < 0xDC00 ∧ 0xDC00 ≤ low ∧ low < 0xE000 then
      let code := 0x10000 + (high - 0xD800) * 0x400 + (low - 0xDC00)
      (CodePoint.ofNat? code).toList ++ joinHalves rest
    else (CodePoint.ofNat? high).toList ++ joinHalves (low :: rest)

/-- The power of ten after the digits of a number, and how many characters it takes: none if the
digits of the power are missing. -/
def powerOf : List Char → Int × Nat
  | e :: rest =>
    if e = 'e' ∨ e = 'E' then
      let (negative, signed, body) := match rest with
        | '-' :: r => (true, 1, r)
        | '+' :: r => (false, 1, r)
        | r => (false, 0, r)
      let digits := body.takeWhile Char.isDigit
      if digits.isEmpty then (0, 0)
      else
        let n : Int := Text.decimalValue digits
        (if negative then -n else n, 1 + signed + digits.length)
    else (0, 0)
  | [] => (0, 0)

/-- A number without its sign, and how many characters it takes.  A zero is not followed by
further digits; point and power need digits after them. -/
def number? (negative : Bool) (cs : List Char) : Option (Token × Nat) :=
  let run := cs.takeWhile Char.isDigit
  let whole := if run.head? = some '0' then ['0'] else run
  if whole.isEmpty then none
  else
    let rest := cs.drop whole.length
    let places := match rest with
      | '.' :: r => r.takeWhile Char.isDigit
      | _ => []
    let pointed := if places.isEmpty then 0 else places.length + 1
    let (power, powered) := powerOf (rest.drop pointed)
    if pointed = 0 ∧ powered = 0 then some (.int negative whole, whole.length)
    else
      let d : Decimal := ⟨negative, Text.decimalValue (whole ++ places), power - places.length⟩
      some (.float d.toFloat, whole.length + pointed + powered)

/-- The token that begins with a character that is not blank, and how many more characters
belong to it. -/
def Token.starting (c : Char) (rest : List Char) : Token × Nat :=
  match c with
  | '[' => (openList, 0)
  | ']' => (closeList, 0)
  | '\x7b' => (openObject, 0)
  | '\x7d' => (closeObject, 0)
  | ',' => (comma, 0)
  | ':' => (colon, 0)
  | '"' =>
    match textCodes rest with
    | some (codes, taken) => (text ⟨joinHalves codes⟩, taken)
    | none => (junk, 0)
  | '-' =>
    if "Infinity".toList.isPrefixOf rest then (float (-1.0 / 0.0), 8)
    else (number? true rest).getD (junk, 0)
  | 'n' => if "ull".toList.isPrefixOf rest then (null, 3) else (junk, 0)
  | 't' => if "rue".toList.isPrefixOf rest then (bool true, 3) else (junk, 0)
  | 'f' => if "alse".toList.isPrefixOf rest then (bool false, 4) else (junk, 0)
  | 'N' => if "aN".toList.isPrefixOf rest then (float (0.0 / 0.0), 2) else (junk, 0)
  | 'I' => if "nfinity".toList.isPrefixOf rest then (float (1.0 / 0.0), 7) else (junk, 0)
  | _ =>
    match number? false (c :: rest) with
    | some (token, taken) => (token, taken - 1)
    | none => (junk, 0)

/-- The character separates tokens and means nothing. -/
def isSpace (c : Char) : Bool := c = ' ' || c = '\t' || c = '\n' || c = '\r'

/-- The tokens of a text, up to the first thing that is none. -/
def Token.ofText : List Char → List Token
  | [] => []
  | c :: rest =>
    if isSpace c then ofText rest
    else match starting c rest with
      | (junk, _) => [junk]
      | (token, taken) => token :: ofText (rest.drop taken)
termination_by cs => cs.length
decreasing_by
  · simp
  · simp only [List.length_drop, List.length_cons]
    omega

end GreatCircle.Json
