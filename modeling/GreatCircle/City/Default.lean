/-
# The cities that are always known

Positions of cities are given in degrees, minutes and seconds.
-/
import GreatCircle.City.Catalog

namespace GreatCircle

/-- Degrees, minutes and seconds as degrees.  The sign is that of the degrees; it can also be
said apart, for places less than a degree from zero. -/
def degreesOf {α : Type} [Scalar α] (degrees minutes seconds : α) (negative : Bool) : α :=
  let size := Scalar.magnitude degrees + minutes / 60.0 + seconds / 3600.0
  if negative || decide (degrees < 0.0) then -size else size

namespace Catalog

/-- A catalog of cities given by names and positions.  Positions that are out of range are left
out. -/
def ofPositions (cities : List (String × Float × Float)) : Catalog :=
  cities.foldl (fun catalog (name, lat, lon) =>
    match GeoPoint.ofDegrees lat lon with
    | .ok location => catalog.insert (Text.lower name) ⟨name, location⟩
    | .error _ => catalog) empty

/-- The cities that are known without a file. -/
def default : Catalog :=
  ofPositions [
    ("London", degreesOf 51 30 26 false, degreesOf 0 7 39 true),
    ("New York", degreesOf 40 42 46 false, degreesOf (-74) 0 22 false),
    ("Beijing", degreesOf 39 54 26 false, degreesOf 116 23 22 false),
    ("Tokyo", degreesOf 35 41 12 false, degreesOf 139 46 40 false),
    ("Hawaii", degreesOf 19 45 59 false, degreesOf (-155) 58 58 false),
    ("Singapore", degreesOf 1 22 14 false, degreesOf 103 45 59 false),
    ("Hong Kong", degreesOf 22 27 59 false, degreesOf 113 59 7 false)]

end Catalog

end GreatCircle
