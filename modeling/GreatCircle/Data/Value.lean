/-
# Values of documents

The documents that this library reads hold values of any kind, and parts of them are passed
through untouched.  `Value` is such a value.  Beside the constructors this file says which
values count as empty, what each kind is called, and how a value is written in a message.

Bytes, pairs and sets occur in YAML documents only, and so do values that contain themselves.
Such a value is unrolled as far as it is written: where it would begin again it stands as
`Value.again`.
-/
import GreatCircle.Data.Moment
import GreatCircle.Decimal.NumberFormat
import GreatCircle.Text.Quoted

namespace GreatCircle

/-- A value of a document. -/
inductive Value where
  /-- No value. -/
  | null
  /-- A truth value. -/
  | bool (b : Bool)
  /-- A whole number of any size. -/
  | int (n : Int)
  /-- A double. -/
  | float (x : Float)
  /-- A text. -/
  | text (t : Text)
  /-- Bytes. -/
  | bytes (b : List UInt8)
  /-- A day or a point of time. -/
  | moment (m : Moment)
  /-- A list of values. -/
  | list (items : List Value)
  /-- Two values. -/
  | pair (first second : Value)
  /-- Values without order or repetition, listed as they are written. -/
  | set (items : List Value)
  /-- Keys with their values, in the order in which the keys first appeared. -/
  | object (fields : List (Value × Value))
  /-- A list or an object inside of itself. -/
  | again (isObject : Bool)

/-- The format of doubles in messages. -/
def messageNumber : NumberFormat := { undefined := "nan", infinity := "inf" }

namespace Value

/-- The value is not empty: it is neither nothing nor false, zero, or without parts. -/
def isTruthy : Value → Bool
  | null => false
  | bool b => b
  | int n => n != 0
  | float x => x != 0.0
  | text t => !t.isEmpty
  | bytes b => !b.isEmpty
  | moment _ => true
  | list items => !items.isEmpty
  | pair .. => true
  | set items => !items.isEmpty
  | object fields => !fields.isEmpty
  | again _ => true

/-- The name of the kind of a value. -/
def kindName : Value → String
  | null => "NoneType"
  | bool _ => "bool"
  | int _ => "int"
  | float _ => "float"
  | text _ => "str"
  | bytes _ => "bytes"
  | moment m => m.kindName
  | list _ => "list"
  | pair .. => "tuple"
  | set _ => "set"
  | object _ => "dict"
  | again isObject => if isObject then "dict" else "list"

/-- A number, truth values left out. -/
def isNumber : Value → Bool
  | int _ | float _ => true
  | _ => false

mutual

/-- The written form of a value, in which texts are quoted. -/
def written : Value → String
  | null => "None"
  | bool b => if b then "True" else "False"
  | int n => toString n
  | float x => messageNumber.shortest x
  | text t => t.quote
  | bytes b => Text.quoteBytes b
  | moment m => m.written
  | list items => "[" ++ ", ".intercalate (writtenItems items) ++ "]"
  | pair first second => "(" ++ first.written ++ ", " ++ second.written ++ ")"
  | set items =>
    if items.isEmpty then "set()"
    else "\x7b" ++ ", ".intercalate (writtenItems items) ++ "\x7d"
  | object fields => "\x7b" ++ ", ".intercalate (writtenFields fields) ++ "\x7d"
  | again isObject => if isObject then "\x7b...\x7d" else "[...]"

/-- The written forms of the items of a list. -/
def writtenItems : List Value → List String
  | [] => []
  | v :: rest => v.written :: writtenItems rest

/-- The written forms of keys with their values. -/
def writtenFields : List (Value × Value) → List String
  | [] => []
  | (key, v) :: rest => (key.written ++ ": " ++ v.written) :: writtenFields rest

end

/-- A value as a text: a text is itself, anything else is written out. -/
def shown : Value → Text
  | text t => t
  | moment m => m.text
  | v => v.written

/-- The longest whole number that is written out, in digits. -/
def digitLimit : Nat := 4300

mutual

/-- The value holds no whole number that is too long to be written out. -/
def isWritable : Value → Bool
  | int n => decide (n.natAbs < Nat.pow 10 digitLimit)
  | list items | set items => areWritable items
  | pair first second => first.isWritable && second.isWritable
  | object fields => fieldsWritable fields
  | _ => true

/-- No item of a list holds a whole number that is too long. -/
def areWritable : List Value → Bool
  | [] => true
  | v :: rest => v.isWritable && areWritable rest

/-- No key and no value holds a whole number that is too long. -/
def fieldsWritable : List (Value × Value) → Bool
  | [] => true
  | (key, v) :: rest => key.isWritable && v.isWritable && fieldsWritable rest

end

/-- A value as a key of an object.  Numbers are the same key if they are equal, whatever their
kind. -/
inductive Key where
  /-- No value. -/
  | null
  /-- A whole number, a truth value, or a double without a fraction. -/
  | whole (n : Int)
  /-- Any other double, by its bits. -/
  | bits (b : UInt64)
  /-- A text. -/
  | text (t : Text)
  /-- Bytes. -/
  | bytes (b : List UInt8)
  /-- A day, or a point of time without an offset. -/
  | moment (m : Moment)
  /-- A point of time with an offset, in universal time. -/
  | instant (micros : Int)
deriving DecidableEq

/-- The whole number that a double equals. -/
def wholeOfFloat? (x : Float) : Option Int :=
  match Binary.ofFloat x with
  | .finite negative m (.ofNat e) =>
    some (if negative then -(m * Nat.pow 2 e : Nat) else (m * Nat.pow 2 e : Nat))
  | .finite negative m (.negSucc e) =>
    if m % Nat.pow 2 (e + 1) = 0 then
      let n := m / Nat.pow 2 (e + 1)
      some (if negative then -(n : Int) else n)
    else none
  | _ => none

/-- The key that a value is; lists, sets and objects are none. -/
def key? : Value → Option Key
  | null => some .null
  | bool b => some (.whole (if b then 1 else 0))
  | int n => some (.whole n)
  | float x => some (match wholeOfFloat? x with
    | some n => .whole n
    | none => .bits x.toBits)
  | text t => some (.text t)
  | bytes b => some (.bytes b)
  | moment m => some ((m.instant?.map Key.instant).getD (.moment m))
  | list _ | pair .. | set _ | object _ | again _ => none

/-- The value of a text key. -/
def field? (name : String) (fields : List (Value × Value)) : Option Value :=
  (fields.find? fun f => f.1.key? == some (.text name)).map Prod.snd

/-- Fields after a value was set for a key.  A key that is there already keeps its place. -/
def setField (key v : Value) : List (Value × Value) → List (Value × Value)
  | [] => [(key, v)]
  | (k, old) :: rest =>
    if k.key? == key.key? then (k, v) :: rest else (k, old) :: setField key v rest

end Value

end GreatCircle
