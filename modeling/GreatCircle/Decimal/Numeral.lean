/-
# Numbers in text

`Numeral.float?` and `Numeral.int?` read a number that stands alone in a text.  White space
around it is passed over, the digits may be those of any script, and single underscores may
stand between digits.  A double may be written with a point, a power of ten, or as one of the
words for infinity and for no number; a whole number has digits only, and not too many.

`Numeral.whole` reads whole numbers in base ten and in the bases of two, eight and sixteen,
where zero and a letter for the base may stand before the digits.
-/
import GreatCircle.Decimal.Reading
import GreatCircle.Text.Blank
import GreatCircle.Text.DecimalDigit
import GreatCircle.Text.Hexadecimal

namespace GreatCircle.Numeral

/-- The white space that may surround a number: all but the information separators. -/
def isSpace (c : Char) : Bool := Text.isBlank c && decide (c.toNat < 0x1C ∨ 0x1F < c.toNat)

/-- A digit of any script as a digit of the common script; other characters stay. -/
def plainDigit (c : Char) : Char :=
  match Text.digitValue? c with
  | some n => Char.ofNat ('0'.toNat + n)
  | none => c

/-- The characters without the underscores, if each of these stands between two digits. -/
def ungroup (isDigit : Char → Bool) : List Char → Option (List Char)
  | [] => some []
  | '_' :: _ => none
  | d :: '_' :: e :: rest =>
    if isDigit d && isDigit e then (ungroup isDigit (e :: rest)).map (d :: ·) else none
  | c :: rest => (ungroup isDigit rest).map (c :: ·)

/-- The sign at the start of a number, and what follows it. -/
def sign : List Char → Bool × List Char
  | '-' :: rest => (true, rest)
  | '+' :: rest => (false, rest)
  | cs => (false, cs)

/-- A power of ten: nothing, or a letter with a whole number. -/
def power? : List Char → Option Int
  | [] => some 0
  | e :: rest =>
    if e = 'e' ∨ e = 'E' then
      let (negative, digits) := sign rest
      if !digits.isEmpty && digits.all Char.isDigit then
        some (if negative then -(Text.decimalValue digits : Int) else Text.decimalValue digits)
      else none
    else none

/-- A decimal without sign: digits with at most one point among them, and perhaps a power of
ten. -/
def decimal? (negative : Bool) (cs : List Char) : Option Decimal :=
  let whole := cs.takeWhile Char.isDigit
  let rest := cs.dropWhile Char.isDigit
  let (places, tail) := match rest with
    | '.' :: r => (r.takeWhile Char.isDigit, r.dropWhile Char.isDigit)
    | r => ([], r)
  if whole.isEmpty && places.isEmpty then none
  else (power? tail).map fun power =>
    ⟨negative, Text.decimalValue (whole ++ places), power - places.length⟩

/-- A double without white space or underscores. -/
def plainFloat? (cs : List Char) : Option Float :=
  let (negative, body) := sign cs
  let signed (x : Float) : Float := if negative then -x else x
  let word := String.ofList (body.map Char.toLower)
  if word = "inf" ∨ word = "infinity" then some (signed (1.0 / 0.0))
  else if word = "nan" then some (signed (0.0 / 0.0))
  else (decimal? negative body).map Decimal.toFloat

/-- The characters of a number without white space around it. -/
def bare (cs : List Char) : List Char := Text.trim isSpace (cs.map plainDigit)

/-- The double that a text stands for. -/
def float? (t : Text) : Option Float := do
  plainFloat? (← ungroup Char.isDigit (bare (← t.chars?)))

/-! ### Whole numbers -/

/-- The most digits that a whole number may have.  In a base that is a power of two it may have
any number. -/
def digitLimit : Nat := 4300

/-- The wording of the fault of a whole number with too many digits. -/
def tooManyDigitsMessage (digits : Nat) : String :=
  "Exceeds the limit (" ++ toString digitLimit ++
    " digits) for integer string conversion: value has " ++ toString digits ++
    " digits; use sys.set_int_max_str_digits() to increase the limit"

/-- Why a text is no whole number. -/
inductive WholeFault where
  /-- It does not have the form of one. -/
  | malformed
  /-- It has more digits than are read, namely this many. -/
  | tooManyDigits (digits : Nat)
deriving DecidableEq, Repr

/-- The value of a digit in a base of at most sixteen. -/
def digitIn? (base : Nat) (c : Char) : Option Nat := (Text.hexDigit? c).filter (· < base)

/-- The letter that may stand after a zero to tell the base. -/
def baseLetter? (base : Nat) : Option Char :=
  if base = 2 then some 'b' else if base = 8 then some 'o' else if base = 16 then some 'x'
  else none

/-- What follows the zero and the letter that tell the base; an underscore may follow these. -/
def dropBase (base : Nat) (cs : List Char) : List Char :=
  match cs with
  | '0' :: letter :: rest =>
    if baseLetter? base = some letter.toLower then
      if rest.head? = some '_' then rest.drop 1 else rest
    else cs
  | _ => cs

/-- The whole number that a text stands for in a base.  Too many digits are found before what
may follow them is looked at. -/
def whole (base : Nat) (t : Text) : Except WholeFault Int := do
  let some cs := t.chars? | throw .malformed
  let (negative, body) := sign (bare cs)
  let digits := dropBase base body
  let isDigit (c : Char) : Bool := (digitIn? base c).isSome
  let run := digits.takeWhile fun c => isDigit c || c = '_'
  let some plain := ungroup isDigit run | throw .malformed
  if base = 10 ∧ digitLimit < plain.length then throw (.tooManyDigits plain.length)
  if plain.isEmpty || run.length < digits.length then throw .malformed
  let n : Int := plain.foldl (fun n c => base * n + (digitIn? base c).getD 0) 0
  return if negative then -n else n

/-- The whole number that a text stands for in base ten. -/
def int? (t : Text) : Option Int := (whole 10 t).toOption

end GreatCircle.Numeral
