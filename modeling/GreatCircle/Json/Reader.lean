/-
# Reading JSON text

`Json.read` reads a whole text as one value.  It goes through the tokens once and keeps the
lists and objects that are still open on a stack: `Reader.step`.  Of two fields with the same
key the later one counts, in the place of the first.
-/
import GreatCircle.Data.Value
import GreatCircle.Decimal.Numeral
import GreatCircle.Json.Token

namespace GreatCircle.Json

/-- Why a text is not read. -/
inductive Fault where
  /-- The text does not follow the grammar. -/
  | malformed
  /-- A whole number has more digits than are read, namely this many. -/
  | tooManyDigits (digits : Nat)
deriving DecidableEq, Repr

/-- A list or an object that is still open. -/
inductive Frame where
  /-- A list with its items so far, the last one first. -/
  | list (items : List Value)
  /-- An object with its fields so far, and the key whose value is being read. -/
  | object (fields : List (Value × Value)) (key : Text)

/-- What may come next. -/
inductive Expect where
  /-- A value. -/
  | value
  /-- A value or the end of a list that has no items yet. -/
  | valueOrEnd
  /-- A key. -/
  | key (fields : List (Value × Value))
  /-- A key or the end of an object that has no fields yet. -/
  | keyOrEnd
  /-- The colon after a key. -/
  | colon (fields : List (Value × Value)) (key : Text)
  /-- A comma or the end of the innermost open list or object, after a value. -/
  | separator (v : Value)

/-- A text that has been read in part. -/
structure Reader where
  /-- The open lists and objects, the innermost first. -/
  stack : List Frame
  /-- What may come next. -/
  expect : Expect

namespace Reader

/-- The reader at the start of a text. -/
def start : Reader := ⟨[], .value⟩

/-- A value has been read whole. -/
def finish (stack : List Frame) (v : Value) : Reader := ⟨stack, .separator v⟩

/-- A value begins with this token. -/
def value (stack : List Frame) : Token → Except Fault Reader
  | .openList => .ok ⟨.list [] :: stack, .valueOrEnd⟩
  | .openObject => .ok ⟨stack, .keyOrEnd⟩
  | .null => .ok (finish stack .null)
  | .bool b => .ok (finish stack (.bool b))
  | .int negative digits =>
    if Numeral.digitLimit < digits.length then .error (.tooManyDigits digits.length)
    else
      let n : Int := Text.decimalValue digits
      .ok (finish stack (.int (if negative then -n else n)))
  | .float x => .ok (finish stack (.float x))
  | .text t => .ok (finish stack (.text t))
  | _ => .error .malformed

/-- The reader after one more token. -/
def step (reader : Reader) (token : Token) : Except Fault Reader :=
  match reader.expect, reader.stack, token with
  | .valueOrEnd, .list _ :: stack, .closeList => .ok (finish stack (.list []))
  | .keyOrEnd, stack, .closeObject => .ok (finish stack (.object []))
  | .value, stack, token | .valueOrEnd, stack, token => value stack token
  | .keyOrEnd, stack, .text key => .ok ⟨stack, .colon [] key⟩
  | .key fields, stack, .text key => .ok ⟨stack, .colon fields key⟩
  | .colon fields key, stack, .colon => .ok ⟨.object fields key :: stack, .value⟩
  | .separator v, .list items :: stack, .comma => .ok ⟨.list (v :: items) :: stack, .value⟩
  | .separator v, .list items :: stack, .closeList =>
    .ok (finish stack (.list (v :: items).reverse))
  | .separator v, .object fields key :: stack, .comma =>
    .ok ⟨stack, .key (Value.setField (.text key) v fields)⟩
  | .separator v, .object fields key :: stack, .closeObject =>
    .ok (finish stack (.object (Value.setField (.text key) v fields)))
  | _, _, _ => .error .malformed

/-- The value that has been read, if the text may end here. -/
def result (reader : Reader) : Except Fault Value :=
  match reader.expect, reader.stack with
  | .separator v, [] => .ok v
  | _, _ => .error .malformed

end Reader

/-- The value of a whole text.  A text that begins with a byte order mark is refused, as that
mark is no token. -/
def read (text : List Char) : Except Fault Value := do
  (← (Token.ofText text).foldlM Reader.step Reader.start).result

end GreatCircle.Json
