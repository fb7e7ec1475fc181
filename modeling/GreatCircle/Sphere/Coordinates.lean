/-
# From places to vectors and back

Latitude turns about the east–west axis, longitude about the polar axis, and longitude is
applied last: `GeoPoint.orientation` is that rotation, and `GeoPoint.toVec3` is where it
carries the point of latitude and longitude zero.

`Vec3.toGeoPoint` goes back.  It looks only at the direction of the vector, gives a pole the
longitude zero, and spells the antimeridian 180.
-/
import GreatCircle.Sphere.GeoPoint
import GreatCircle.Sphere.Orientation

namespace GreatCircle

open Scalar

variable {α : Type} [Scalar α]

/-- The vector of latitude and longitude zero. -/
def baseVector : Vec3 α := ⟨0.0, 0.0, 1.0⟩

/-- Latitude turns about this axis. -/
def eastWestAxis : Vec3 α := ⟨1.0, 0.0, 0.0⟩

/-- Longitude turns about this axis. -/
def polarAxis : Vec3 α := ⟨0.0, 1.0, 0.0⟩

/-- The rotation that carries the base vector to a place. -/
def GeoPoint.orientation (p : GeoPoint α) : Orientation α :=
  (Orientation.turn polarAxis (radians p.lon)).compose
    (Orientation.turn eastWestAxis (-radians p.lat))

/-- The unit vector that points to a place. -/
def GeoPoint.toVec3 (p : GeoPoint α) : Vec3 α := p.orientation.rotate baseVector

namespace Vec3

/-- Closer to the polar axis than this, a vector points to a pole. -/
def poleTolerance : α := 1.0e-12

/-- The distance from the polar axis. -/
def horizontal (v : Vec3 α) : α := sqrt (v.z * v.z + v.x * v.x)

/-- The latitude of a direction off the polar axis, in degrees. -/
def latitude (v : Vec3 α) : α := degrees (atan (v.y / v.horizontal))

/-- The longitude of a direction off the polar axis, in degrees.  The inverse tangent of
`z / x` measures from the first axis and knows no side, so it is taken from 90 degrees on the
eastern side and from -90 degrees on the western one. -/
def longitude (v : Vec3 α) : α :=
  let fromAxis := if v.x == 0.0 then withSignOf 90.0 v.z else degrees (atan (v.z / v.x))
  if 0.0 ≤ v.x then 90.0 - fromAxis else -(90.0 + fromAxis)

/-- The place that a vector points to. -/
def toGeoPoint (v : Vec3 α) : Except (Fault α) (GeoPoint α) :=
  if v.horizontal < poleTolerance then GeoPoint.ofDegrees (withSignOf 90.0 v.y) 0.0
  else GeoPoint.ofDegrees (clamp 90.0 v.latitude) (clamp 180.0 v.longitude)

end Vec3

end GreatCircle
