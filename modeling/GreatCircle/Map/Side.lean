/-
# The side of the map that a longitude is on

The map is cut along the antimeridian.  `Side.ofLongitude?` tells whether a longitude is west
or east of the prime meridian, as seen from the cut: by the sign of the sine of its distance
from the antimeridian.  Longitudes within rounding of the prime meridian or of the
antimeridian have no side of their own; they are ties.

Along a line a tie takes over the side of a neighbour.  `resolveSides` says which: the side of
the nearest point before it that has one, or else of the first point that has one.  Where
there is no such point, the first longitude beyond 90 degrees decides.
-/
import GreatCircle.Scalar
import GreatCircle.Sphere.Fault

namespace GreatCircle

open Scalar

/-- The side of the map on which a point lies. -/
inductive Side where
  /-- Between the antimeridian and the prime meridian, going east. -/
  | west
  /-- Between the prime meridian and the antimeridian, going east. -/
  | east
  /-- The longitude is undefined, and so is the side. -/
  | undefined
deriving DecidableEq, Repr

namespace Side

/-- One side is the west and the other the east. -/
def isOpposite : Side → Side → Bool
  | west, east => true
  | east, west => true
  | _, _ => false

theorem isOpposite_comm (s t : Side) : s.isOpposite t = t.isOpposite s := by
  cases s <;> cases t <;> rfl

@[simp] theorem isOpposite_self (s : Side) : s.isOpposite s = false := by
  cases s <;> rfl

variable {α : Type} [Scalar α]

/-- A longitude whose sine falls below this is a tie. -/
def tieTolerance : α := 1.0e-12

/-- The sine of the angle from the antimeridian to a longitude: positive in the west, negative
in the east, zero on the prime meridian and on the antimeridian. -/
def seamSine (lon : α) : α := sin (radians (lon + 180.0))

/-- The side of a longitude, and none for a tie. -/
def ofLongitude? (lon : α) : Option Side :=
  let s := seamSine lon
  if magnitude s < tieTolerance then none
  else if 0.0 < s then some west
  else if s < 0.0 then some east
  else some undefined

/-- The sides of a line's points where `last` is the side before the first of them: a tie has
the side of its predecessor. -/
def inherit (last : Side) : List (Option Side) → List Side
  | [] => []
  | none :: rest => last :: inherit last rest
  | some side :: rest => side :: inherit side rest

/-- The side of a line of ties.  It is the side of the first longitude beyond 90 degrees; a line
that stays on the prime meridian counts as east. -/
def ofTies (lons : List α) : Side :=
  match lons.find? fun lon => decide (90.0 < magnitude lon) with
  | some lon => if lon < 0.0 then west else east
  | none => east

/-- The side from which a line sets out: that of its first point with a side of its own. -/
def ofStart (lons : List α) : Side :=
  (lons.findSome? ofLongitude?).getD (ofTies lons)

/-- The sides of the points of a line, ties included. -/
def resolve (lons : List α) : List Side := inherit (ofStart lons) (lons.map ofLongitude?)

@[simp] theorem length_inherit (last : Side) (sides : List (Option Side)) :
    (inherit last sides).length = sides.length := by
  induction sides generalizing last with
  | nil => rfl
  | cons s rest ih => cases s <;> simp [inherit, ih]

@[simp] theorem length_resolve (lons : List α) : (resolve lons).length = lons.length := by
  simp [resolve]

end Side

/-- The test on two longitudes alone: whether a straight line between them would run the long
way round the map.  They are on opposite sides, neither of them a tie, and at least half a
turn apart.  An infinite longitude has no sine. -/
def crossesSeam {α : Type} [Scalar α] (a b : α) : Except (Fault α) Bool :=
  if isInfinite a || isInfinite b then .error .infiniteAngle
  else .ok <|
    match Side.ofLongitude? a, Side.ofLongitude? b with
    | some s, some t => s.isOpposite t && decide (180.0 ≤ magnitude (b - a))
    | _, _ => false

end GreatCircle
