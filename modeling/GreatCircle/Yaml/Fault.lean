/-
# Why a YAML text is not read

Nearly every fault is one of grammar, and these are not told apart.  Some scalars have the form
of a number or of a date but no value, or are marked as something that they are not; they have
faults of their own, with a wording.
-/
import GreatCircle.Decimal.Numeral
import GreatCircle.Text.Quoted

namespace GreatCircle.Yaml

/-- Why a YAML text is not read. -/
inductive Fault where
  /-- The text does not follow the grammar, or uses a tag or an alias that means nothing. -/
  | malformed
  /-- A code between double quotes is beyond the table of characters. -/
  | noCharacter
  /-- A code between double quotes does not even fit into 31 bits. -/
  | hugeCode
  /-- A whole number in some base has no digits, or others than those of the base. -/
  | notInteger (base : Nat) (digits : Text)
  /-- A whole number has more digits than are read, namely this many. -/
  | tooManyDigits (digits : Nat)
  /-- A scalar that is marked as a double is none. -/
  | notFloat (digits : Text)
  /-- A double in base sixty has more parts than a double can count. -/
  | tooManySixties
  /-- A scalar that is marked as a number is empty. -/
  | noDigits
  /-- A scalar that is marked as a truth value is this other word. -/
  | notBool (word : Text)
  /-- A scalar that is marked as a date or a time is none. -/
  | notMoment
  /-- An object with a default value is marked as a date or a time. -/
  | momentOfObject
  /-- A part of a date or of a time is out of range, as this text says. -/
  | badMoment (what : String)
  /-- An object is its own default value. -/
  | endless
deriving DecidableEq, Repr

namespace Fault

/-- The longest part of a bad whole number that is shown, with its quotes. -/
def shownLength : Nat := 200

/-- The wording of a fault that has one. -/
def message? : Fault → Option String
  | malformed => none
  | noCharacter => some "chr() arg not in range(0x110000)"
  | hugeCode => some "Python int too large to convert to C int"
  | notInteger base digits =>
    some ("invalid literal for int() with base " ++ toString base ++ ": " ++
      String.ofList (digits.quote.toList.take shownLength))
  | tooManyDigits n => some (Numeral.tooManyDigitsMessage n)
  | notFloat digits => some ("could not convert string to float: " ++ digits.quote)
  | tooManySixties => some "int too large to convert to float"
  | noDigits => some "string index out of range"
  | notBool word => some word.quote
  | notMoment => some "'NoneType' object has no attribute 'groupdict'"
  | momentOfObject => some "expected string or bytes-like object, got 'list'"
  | badMoment what => some what
  | endless => some "maximum recursion depth exceeded"

end Fault

end GreatCircle.Yaml
