/-
# The forms of plain scalars

A plain scalar may be a truth value, a number, nothing, or a day or time; if it has the form of
none of these it is a text.  `Tag.ofPlain` tells which.

Whole numbers may be written in base two, eight (after a leading zero), ten or sixteen, and in
base sixty with colons.  Doubles need a point.  A line end after any of these forms does not
count.
-/
import GreatCircle.Data.Moment
import GreatCircle.Decimal.Numeral
import GreatCircle.Text.Split
import GreatCircle.Yaml.Tag

namespace GreatCircle.Yaml

/-- A digit or an underscore. -/
def isDigitOrBar (c : Char) : Bool := c.isDigit || c = '_'

/-- One or two digits, the first of two at most five. -/
def isSixtieth : List Char → Bool
  | [d] => d.isDigit
  | [d, e] => decide ('0' ≤ d ∧ d ≤ '5') && e.isDigit
  | _ => false

/-- A whole number. -/
def isInt (cs : List Char) : Bool :=
  let body := (Numeral.sign cs).2
  match body with
  | [] => false
  | ['0'] => true
  | '0' :: 'b' :: digits => !digits.isEmpty && digits.all ("01_".contains ·)
  | '0' :: 'x' :: digits =>
    !digits.isEmpty && digits.all fun c => c = '_' || (Text.hexDigit? c).isSome
  | '0' :: digits => digits.all ("01234567_".contains ·)
  | first :: _ =>
    first.isDigit &&
      match Text.splitOn ':' body with
      | whole :: parts => whole.all isDigitOrBar && parts.all isSixtieth
      | [] => false

/-- A power of ten, with a sign, or nothing. -/
def isPower : List Char → Bool
  | [] => true
  | e :: sign :: digits =>
    (e = 'e' || e = 'E') && (sign = '+' || sign = '-') && !digits.isEmpty &&
      digits.all Char.isDigit
  | _ => false

/-- A digit, then digits and underscores, and what follows these. -/
def afterDigits? : List Char → Option (List Char)
  | d :: rest => if d.isDigit then some (rest.dropWhile isDigitOrBar) else none
  | [] => none

/-- A double. -/
def isFloat (cs : List Char) : Bool :=
  let body := (Numeral.sign cs).2
  let isPointed := match afterDigits? body with
    | some ('.' :: places) => isPower (places.dropWhile isDigitOrBar)
    | _ => false
  let isFraction := match cs with
    | '.' :: places => (afterDigits? places).any isPower
    | _ => false
  let isSixties := match Text.splitOn ':' body with
    | whole :: part :: parts =>
      match Text.splitOn '.' ((part :: parts).getLastD []) with
      | [last, places] =>
        afterDigits? whole = some [] && (part :: parts).dropLast.all isSixtieth &&
          isSixtieth last && places.all isDigitOrBar
      | _ => false
    | _ => false
  isPointed || isFraction || isSixties ||
    [".inf", ".Inf", ".INF"].contains (String.ofList body) ||
    [".nan", ".NaN", ".NAN"].contains (String.ofList cs)

/-- Between `least` and `most` digits: their value, and what follows. -/
def digits? (least most : Nat) (cs : List Char) : Option (Nat × List Char) :=
  let run := (cs.take most).takeWhile Char.isDigit
  if least ≤ run.length then some (Text.decimalValue run, cs.drop run.length) else none

/-- What follows a character that has to come next. -/
def after? (mark : Char) : List Char → Option (List Char)
  | c :: rest => if c = mark then some rest else none
  | [] => none

/-- The offset from universal time in minutes after a time, if there is one. -/
def offset? (cs : List Char) : Option (Option Int) :=
  match cs.dropWhile fun c => c = ' ' || c = '\t' with
  | [] => if cs.isEmpty then some none else none
  | ['Z'] => some (some 0)
  | sign :: rest =>
    if sign = '+' ∨ sign = '-' then do
      let (hours, rest) ← digits? 1 2 rest
      let minutes ← match rest with
        | [] => some 0
        | _ => do
          let (minutes, rest) ← digits? 2 2 (← after? ':' rest)
          if rest.isEmpty then some minutes else none
      let total : Int := hours * 60 + minutes
      return some (if sign = '-' then -total else total)
    else none

/-- A day, written in four digits and twice one or two, or a day with a time.  The parts may be out
of range. -/
def moment? (cs : List Char) : Option Moment := do
  let (year, rest) ← digits? 4 4 cs
  let (month, rest) ← digits? 1 2 (← after? '-' rest)
  let (day, rest) ← digits? 1 2 (← after? '-' rest)
  match rest with
  | [] => some (.day year month day)
  | c :: _ =>
    let isBlank (c : Char) : Bool := c = ' ' || c = '\t'
    let rest ← if c = 'T' ∨ c = 't' then some (rest.drop 1)
      else if isBlank c then some (rest.dropWhile isBlank)
      else none
    let (hour, rest) ← digits? 1 2 rest
    let (minute, rest) ← digits? 2 2 (← after? ':' rest)
    let (second, rest) ← digits? 2 2 (← after? ':' rest)
    let (places, rest) := match rest with
      | '.' :: r => (r.takeWhile Char.isDigit, r.dropWhile Char.isDigit)
      | r => ([], r)
    let micros := Text.decimalValue ((places ++ List.replicate 6 '0').take 6)
    return .time year month day hour minute second micros (← offset? rest)

/-- A moment in a form that needs no tag: a day without a time has all its digits. -/
def isMoment (cs : List Char) : Bool :=
  match moment? cs with
  | some (.day ..) => cs.length == 10
  | some (.time ..) => true
  | none => false

/-- The spellings of a word that count: small, with a capital, or all in capitals. -/
def spellings (word : String) : List String := [word, word.capitalize, word.toUpper]

/-- The truth value that a word stands for. -/
def bool? (word : String) : Option Bool :=
  if ["yes", "true", "on"].any fun w => (spellings w).contains word then some true
  else if ["no", "false", "off"].any fun w => (spellings w).contains word then some false
  else none

/-- The characters without a line end after them. -/
def dropFinalBreak (cs : List Char) : List Char :=
  if cs.getLast? = some '\n' then cs.dropLast else cs

namespace Tag

/-- The kind of value that characters stand for by their form alone. -/
def ofForm (cs : List Char) : Tag :=
  let word := String.ofList cs
  if (bool? word).isSome then bool
  else if isFloat cs then float
  else if isInt cs then int
  else if word = "<<" then merge
  else if word = "~" ∨ (spellings "null").contains word then null
  else if isMoment cs then moment
  else if word = "=" then defaultKey
  else if ["!", "&", "*"].contains word then unknown
  else text

/-- The kind of value that a plain scalar stands for. -/
def ofPlain (t : Text) : Tag :=
  match t.chars? with
  | none => text
  | some [] => null
  | some cs => ofForm (dropFinalBreak cs)

end Tag

end GreatCircle.Yaml
