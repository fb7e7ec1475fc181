/-
# Points of the flat map

On the map a point is written longitude first.  Unlike a `GeoPoint` it may hold any numbers.
Points also arrive as rows of numbers, and a row that has not exactly two entries is refused:
`MapPoint.ofRow`.
-/
import GreatCircle.Sphere.GeoPoint

namespace GreatCircle

/-- A point of the map. -/
structure MapPoint (α : Type) where
  /-- Degrees to the east. -/
  lon : α
  /-- Degrees to the north. -/
  lat : α
deriving DecidableEq, Repr

/-- A place as a point of the map. -/
def GeoPoint.toMapPoint {α : Type} [Scalar α] (p : GeoPoint α) : MapPoint α := ⟨p.lon, p.lat⟩

/-- Why rows of numbers are not a line on the map. -/
inductive RowFault where
  /-- A row has no first entry, where only that was looked at. -/
  | noLongitude
  /-- A row has this many entries, which is less than two. -/
  | tooShort (entries : Nat)
  /-- A row has more than two entries. -/
  | tooLong
  /-- There are fewer than two rows. -/
  | tooFewRows
deriving DecidableEq, Repr

namespace RowFault

/-- The wording of a fault. -/
def message : RowFault → String
  | noLongitude => "tuple index out of range"
  | tooShort n => "not enough values to unpack (expected 2, got " ++ toString n ++ ")"
  | tooLong => "too many values to unpack (expected 2)"
  | tooFewRows => "A renderable path needs at least two points."

end RowFault

namespace MapPoint

variable {α : Type}

/-- The point that a row of two numbers gives. -/
def ofRow : List α → Except RowFault (MapPoint α)
  | [] => .error (.tooShort 0)
  | [_] => .error (.tooShort 1)
  | [lon, lat] => .ok ⟨lon, lat⟩
  | _ :: _ :: _ :: _ => .error .tooLong

/-- The row that a point is written as. -/
def toRow (p : MapPoint α) : List α := [p.lon, p.lat]

@[simp] theorem ofRow_toRow (p : MapPoint α) : ofRow p.toRow = .ok p := rfl

/-- The points of rows, or the fault of the first bad row. -/
def ofRows (rows : List (List α)) : Except RowFault (List (MapPoint α)) := rows.mapM ofRow

/-- The points of rows that are going to be split.  A line of fewer than two rows has nothing
to split, so its rows are not looked at; otherwise all longitudes are read before any row is
read whole. -/
def ofRowsToSplit (rows : List (List α)) : Except RowFault (List (MapPoint α)) :=
  if rows.length < 2 then .ok []
  else if rows.any List.isEmpty then .error .noLongitude
  else ofRows rows

end MapPoint

end GreatCircle
