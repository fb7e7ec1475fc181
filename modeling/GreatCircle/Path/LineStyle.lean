/-
# Styles

How a line is drawn is not this library's business: a style is handed through to whoever draws.
What is not set is not written.
-/
import GreatCircle.Data.Value

namespace GreatCircle

/-- The style of a line. -/
structure LineStyle where
  /-- The colour of the line. -/
  stroke : Option Value := none
  /-- The width of the line. -/
  strokeWidth : Option Value := none

namespace Value

/-- The fields that are set among optional ones. -/
def presentFields (fields : List (String × Option Value)) : List (Value × Value) :=
  fields.filterMap fun f => f.2.map fun v => (Value.text f.1, v)

@[simp] theorem presentFields_nil : presentFields [] = [] := rfl

@[simp] theorem presentFields_cons_none (name : String) (rest : List (String × Option Value)) :
    presentFields ((name, none) :: rest) = presentFields rest := rfl

@[simp] theorem presentFields_cons_some (name : String) (v : Value)
    (rest : List (String × Option Value)) :
    presentFields ((name, some v) :: rest) = (.text name, v) :: presentFields rest := rfl

end Value

namespace LineStyle

/-- The fields in which a style is written. -/
def fields (style : LineStyle) : List (Value × Value) :=
  Value.presentFields [("stroke", style.stroke), ("strokeWidth", style.strokeWidth)]

end LineStyle

end GreatCircle
