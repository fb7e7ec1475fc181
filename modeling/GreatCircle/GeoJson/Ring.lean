/-
# Rings in nested lists

The coordinates of an area are rings of positions, nested in lists to any depth.  A list counts
as a ring if its first item is a position, that is, a list of two numbers; its other items are
not looked at.  `Value.rings` collects the outermost rings of a value in the order of the
document.
-/
import GreatCircle.Data.Value

namespace GreatCircle.Value

/-- Two numbers. -/
def isPosition : Value → Bool
  | list [x, y] => x.isNumber && y.isNumber
  | _ => false

/-- A list that begins with a position. -/
def isRing : Value → Bool
  | list (first :: _) => first.isPosition
  | _ => false

mutual

/-- The outermost rings of a value.  Lists are searched, other values hold none. -/
def rings : Value → List Value
  | list items => if (list items).isRing then [list items] else ringsOfItems items
  | _ => []

/-- The outermost rings of the items of a list. -/
def ringsOfItems : List Value → List Value
  | [] => []
  | v :: rest => v.rings ++ ringsOfItems rest

end

/-- A ring is its own only outermost ring. -/
theorem rings_of_isRing {v : Value} (h : v.isRing = true) : v.rings = [v] := by
  cases v <;> simp_all [isRing, rings]

theorem ringsOfItems_eq_flatMap (items : List Value) :
    ringsOfItems items = items.flatMap rings := by
  induction items with
  | nil => rfl
  | cons v rest ih => simp [ringsOfItems, ih]

end GreatCircle.Value
