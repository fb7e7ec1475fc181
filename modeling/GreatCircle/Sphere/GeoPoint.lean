/-
# Geographic points

A `GeoPoint` is a latitude and a longitude in degrees, both in range: the type holds the
proof.  `GeoPoint.ofDegrees` is the only check of that range; whoever has a `GeoPoint` need
not ask again.  Distances on the ground come from the haversine formula.
-/
import GreatCircle.Sphere.Vec3

namespace GreatCircle

open Scalar

/-- A place on the globe, in degrees. -/
structure GeoPoint (α : Type) [Scalar α] where
  /-- Degrees north of the equator. -/
  lat : α
  /-- Degrees east of the prime meridian. -/
  lon : α
  /-- The south pole is the lowest latitude. -/
  le_lat : -90.0 ≤ lat
  /-- The north pole is the highest latitude. -/
  lat_le : lat ≤ 90.0
  /-- The antimeridian bounds the west. -/
  le_lon : -180.0 ≤ lon
  /-- The antimeridian bounds the east. -/
  lon_le : lon ≤ 180.0

namespace GeoPoint

variable {α : Type} [Scalar α]

/-- The point of a latitude and a longitude, if they are finite and in range.  The latitude
is looked at first. -/
def ofDegrees (lat lon : α) : Except (Fault α) (GeoPoint α) :=
  if isFinite lat && isFinite lon then
    if hLat : -90.0 ≤ lat ∧ lat ≤ 90.0 then
      if hLon : -180.0 ≤ lon ∧ lon ≤ 180.0 then
        .ok ⟨lat, lon, hLat.1, hLat.2, hLon.1, hLon.2⟩
      else .error (.longitudeOutOfRange lon)
    else .error (.latitudeOutOfRange lat)
  else .error (.notFinite lat lon)

/-- Two points with the same latitude and the same longitude are the same. -/
@[ext] theorem ext {p q : GeoPoint α} (hLat : p.lat = q.lat) (hLon : p.lon = q.lon) : p = q := by
  cases p
  cases q
  cases hLat
  cases hLon
  rfl

/-- A point is made from its own coordinates, as long as these count as finite. -/
theorem ofDegrees_self (p : GeoPoint α) (hLat : isFinite p.lat = true)
    (hLon : isFinite p.lon = true) : ofDegrees p.lat p.lon = .ok p := by
  simp [ofDegrees, hLat, hLon, p.le_lat, p.lat_le, p.le_lon, p.lon_le]

/-- What is made has the coordinates that were given. -/
theorem ofDegrees_eq_ok {lat lon : α} {p : GeoPoint α} (h : ofDegrees lat lon = .ok p) :
    p.lat = lat ∧ p.lon = lon := by
  unfold ofDegrees at h
  split at h <;> try contradiction
  split at h <;> try contradiction
  split at h <;> try contradiction
  cases h
  exact ⟨rfl, rfl⟩

/-- The mean radius of the Earth in kilometres. -/
def earthRadius : α := 6371.0088

/-- The haversine of the central angle between two points: the squared sine of half of it. -/
def haversine (a b : GeoPoint α) : α :=
  let lat1 := radians a.lat
  let lat2 := radians b.lat
  let sinLat := sin ((lat2 - lat1) / 2.0)
  let sinLon := sin (radians (b.lon - a.lon) / 2.0)
  sinLat * sinLat + cos lat1 * cos lat2 * (sinLon * sinLon)

/-- The distance along the great circle through two points, on a sphere of the given radius.
Rounding may lift the sine above one, hence the bound. -/
def distance (a b : GeoPoint α) (radius : α) : α :=
  2.0 * radius * asin (atMost 1.0 (sqrt (haversine a b)))

end GeoPoint

end GreatCircle
