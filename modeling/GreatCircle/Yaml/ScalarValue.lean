/-
# The values of scalars

`Tag.read` gives the value of a scalar of a kind.  The kind may have been written before the
scalar, so that its text need not have the form of such a value.
-/
import GreatCircle.Data.Value
import GreatCircle.Text.Base64
import GreatCircle.Text.Case
import GreatCircle.Yaml.Fault
import GreatCircle.Yaml.PlainForm

namespace GreatCircle.Yaml

/-- The text without underscores. -/
def dropBars (t : Text) : Text := ⟨t.points.filter (· != '_')⟩

/-- The sign at the start of a number, and what follows it. -/
def takeSign (t : Text) : Bool × Text :=
  match t.points with
  | c :: rest => if c = '-' then (true, ⟨rest⟩) else if c = '+' then (false, ⟨rest⟩) else (false, t)
  | [] => (false, t)

/-- The parts of a number in base sixty, the highest first. -/
def sixtieths (t : Text) : List Text := (Text.splitOn (':' : CodePoint) t.points).map Text.mk

/-- A whole number in a base. -/
def readWhole (base : Nat) (t : Text) : Except Fault Int :=
  match Numeral.whole base t with
  | .ok n => .ok n
  | .error .malformed => .error (.notInteger base t)
  | .error (.tooManyDigits n) => .error (.tooManyDigits n)

/-- What follows a word at the start of a text. -/
def afterWord? (word t : Text) : Option Text :=
  if word.points.isPrefixOf t.points then some ⟨t.points.drop word.points.length⟩ else none

/-- A whole number without its sign. -/
def readUnsigned (t : Text) : Except Fault Int :=
  if t.isEmpty then .error .noDigits
  else if t = "0" then .ok 0
  else if let some digits := afterWord? "0b" t then readWhole 2 digits
  else if let some digits := afterWord? "0x" t then readWhole 16 digits
  else if (afterWord? "0" t).isSome then readWhole 8 t
  else (sixtieths t).foldlM (fun n part => do return 60 * n + (← readWhole 10 part)) 0

/-- The value of a whole number. -/
def readInt (t : Text) : Except Fault Int := do
  let (negative, body) := takeSign (dropBars t)
  let n ← readUnsigned body
  return if negative then -n else n

/-- A double in base ten. -/
def readDecimal (t : Text) : Except Fault Float :=
  match Numeral.float? t with
  | some x => .ok x
  | none => .error (.notFloat t)

/-- The sum of the parts of a double in base sixty, the lowest first; `power` is the power of
sixty of the first of them. -/
def sumSixtieths (power : Nat) (sum : Float) : List Float → Except Fault Float
  | [] => .ok sum
  | part :: rest =>
    match Decimal.ofInt? (Nat.pow 60 power) with
    | some weight => sumSixtieths (power + 1) (sum + part * weight) rest
    | none => .error .tooManySixties

/-- The digits of a double without underscores, in lower case, and without the sign that comes
first. -/
def floatDigits (t : Text) : Bool × Text := takeSign (dropBars t).lower

/-- The text is the word for a double that is no number. -/
def isUndefinedWord (t : Text) : Bool := (floatDigits t).2 = ".nan"

/-- The value of a double. -/
def readFloat (t : Text) : Except Fault Float := do
  let (negative, body) := floatDigits t
  if (dropBars t).isEmpty then throw .noDigits
  if isUndefinedWord t then return 0.0 / 0.0
  let x ←
    if body = ".inf" then pure (1.0 / 0.0)
    else if body.points.contains ':' then do
      sumSixtieths 0 0.0 (← (sixtieths body).mapM readDecimal).reverse
    else readDecimal body
  return if negative then -x else x

/-- The value of a day or of a point of time. -/
def readMoment (t : Text) : Except Fault Moment :=
  match t.chars?.bind fun cs => moment? (dropFinalBreak cs) with
  | none => .error .notMoment
  | some m =>
    match m.rangeFault? with
    | some what => .error (.badMoment what)
    | none => .ok m

/-- The bytes that a text in base sixty-four stands for. -/
def readBytes (t : Text) : Except Fault (List UInt8) :=
  match t.chars? with
  | none => .error .malformed
  | some cs =>
    match if cs.all (·.toNat < 0x80) then Text.decode64? cs else none with
    | some bytes => .ok bytes
    | none => .error .malformed

/-- The truth value of a word in any case. -/
def readBool (t : Text) : Except Fault Bool :=
  match t.lower.string?.bind bool? with
  | some b => .ok b
  | none => .error (.notBool t.lower)

/-- The value of a scalar of a kind. -/
def Tag.read (tag : Tag) (t : Text) : Except Fault Value :=
  match tag with
  | null => .ok .null
  | bool => return .bool (← readBool t)
  | int => return .int (← readInt t)
  | float => return .float (← readFloat t)
  | bytes => return .bytes (← readBytes t)
  | moment => return .moment (← readMoment t)
  | text => .ok (.text t)
  | list | pairs | set | object | merge | defaultKey | unknown => .error .malformed

end GreatCircle.Yaml
