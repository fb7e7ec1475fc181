/-
# Crossings of the antimeridian

`Placed.ofPoints` gives every point of a line its side and moves the ties exactly onto the
meridian that they are near, with the sign of longitude that their side asks for.  A
crossing is then a step of half a turn or more: `Placed.crosses`, `seamCrossings`.
-/
import GreatCircle.Map.MapPoint
import GreatCircle.Map.Side

namespace GreatCircle

open Scalar

/-- A point of a line together with what was found out about its longitude. -/
structure Placed (α : Type) where
  /-- The point, moved onto the meridian if it is a tie. -/
  point : MapPoint α
  /-- The side that the point is on. -/
  side : Side
  /-- The point is on the prime meridian or the antimeridian. -/
  isTie : Bool
deriving DecidableEq, Repr

namespace Placed

variable {α : Type} [Scalar α]

/-- The exact longitude of a tie.  The antimeridian is written -180 on the western side and
180 on every other. -/
def snapLongitude (side : Side) (lon : α) : α :=
  if magnitude lon ≤ 90.0 then 0.0
  else match side with
    | .west => -180.0
    | .east | .undefined => 180.0

/-- A point with its side; a tie is moved onto its meridian. -/
def ofPoint (p : MapPoint α) (side : Side) : Placed α :=
  match Side.ofLongitude? p.lon with
  | none => ⟨⟨snapLongitude side p.lon, p.lat⟩, side, true⟩
  | some _ => ⟨p, side, false⟩

/-- The points of a line with their sides. -/
def ofPoints (points : List (MapPoint α)) : List (Placed α) :=
  List.zipWith ofPoint points (Side.resolve (points.map MapPoint.lon))

/-- The step from one point to the next is half a turn or more, and it goes from one side to
the other or touches a tie. -/
def crosses (a b : Placed α) : Bool :=
  decide (180.0 ≤ magnitude (b.point.lon - a.point.lon)) &&
    (a.side.isOpposite b.side || a.isTie || b.isTie)

/-- The positions of the steps that cross, counted from `position`. -/
def crossingsFrom (position : Nat) : List (Placed α) → List Nat
  | a :: b :: rest =>
    if a.crosses b then position :: crossingsFrom (position + 1) (b :: rest)
    else crossingsFrom (position + 1) (b :: rest)
  | _ => []

/-- The positions of the points after which the line crosses the antimeridian. -/
def crossings (points : List (Placed α)) : List Nat := crossingsFrom 0 points

@[simp] theorem length_ofPoints (points : List (MapPoint α)) :
    (ofPoints points).length = points.length := by
  simp [ofPoints]

@[simp] theorem ofPoint_side (p : MapPoint α) (side : Side) : (ofPoint p side).side = side := by
  unfold ofPoint
  split <;> rfl

@[simp] theorem ofPoint_lat (p : MapPoint α) (side : Side) :
    (ofPoint p side).point.lat = p.lat := by
  unfold ofPoint
  split <;> rfl

end Placed

/-- The positions of the points after which a line crosses the antimeridian.  A line of fewer
than two points has no steps. -/
def seamCrossings {α : Type} [Scalar α] (points : List (MapPoint α)) : List Nat :=
  Placed.crossings (Placed.ofPoints points)

end GreatCircle
