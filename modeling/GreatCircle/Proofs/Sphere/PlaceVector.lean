/-
# The vector of a place, in latitude and longitude

The two half-angle quaternions of latitude and longitude come to the usual formula for a point of
the sphere (`GeoPoint.toVec3_eq`), whose distance from the polar axis is the cosine of the
latitude (`GeoPoint.horizontal_toVec3`).
-/
import GreatCircle.Proofs.Sphere.Turn
import GreatCircle.Sphere.Coordinates

namespace GreatCircle

open Scalar

lemma onSphere_polarAxis : (polarAxis : Vec3 ℝ).OnSphere := by
  rw [Vec3.onSphere_iff]
  norm_num [polarAxis, Vec3.dot_def]

lemma onSphere_eastWestAxis : (eastWestAxis : Vec3 ℝ).OnSphere := by
  rw [Vec3.onSphere_iff]
  norm_num [eastWestAxis, Vec3.dot_def]

lemma norm_polarAxis_ne_zero : (polarAxis : Vec3 ℝ).norm ≠ 0 := by
  rw [show (polarAxis : Vec3 ℝ).norm = 1 from onSphere_polarAxis]
  exact one_ne_zero

lemma norm_eastWestAxis_ne_zero : (eastWestAxis : Vec3 ℝ).norm ≠ 0 := by
  rw [show (eastWestAxis : Vec3 ℝ).norm = 1 from onSphere_eastWestAxis]
  exact one_ne_zero

namespace GeoPoint

variable (p : GeoPoint ℝ)

lemma abs_lat_le : |p.lat| ≤ 90 := by
  have hlow := p.le_lat
  have hhigh := p.lat_le
  norm_num at hlow hhigh
  exact abs_le.2 ⟨hlow, hhigh⟩

lemma abs_lon_le : |p.lon| ≤ 180 := by
  have hlow := p.le_lon
  have hhigh := p.lon_le
  norm_num at hlow hhigh
  exact abs_le.2 ⟨hlow, hhigh⟩

/-- A latitude is at most a quarter turn. -/
lemma abs_radians_lat_le : |radians p.lat| ≤ Real.pi / 2 := by
  rw [radians_real, abs_mul, abs_of_pos (by positivity : 0 < Real.pi / 180)]
  nlinarith [p.abs_lat_le, Real.pi_pos]

lemma cos_lat_nonneg : 0 ≤ Real.cos (radians p.lat) := by
  obtain ⟨hlow, hhigh⟩ := abs_le.1 p.abs_radians_lat_le
  exact Real.cos_nonneg_of_neg_pi_div_two_le_of_le hlow hhigh

/-- Exact coordinates in range make a place. -/
lemma exists_ofDegrees {lat lon : ℝ} (hLat : |lat| ≤ 90) (hLon : |lon| ≤ 180) :
    ∃ q, ofDegrees lat lon = .ok q ∧ q.lat = lat ∧ q.lon = lon := by
  obtain ⟨hLatLow, hLatHigh⟩ := abs_le.1 hLat
  obtain ⟨hLonLow, hLonHigh⟩ := abs_le.1 hLon
  let q : GeoPoint ℝ :=
    { lat := lat
      lon := lon
      le_lat := by norm_num; exact hLatLow
      lat_le := by norm_num; exact hLatHigh
      le_lon := by norm_num; exact hLonLow
      lon_le := by norm_num; exact hLonHigh }
  exact ⟨q, ofDegrees_self q rfl rfl, rfl, rfl⟩

lemma orientation_eq :
    p.orientation =
      ⟨Real.cos (radians p.lon / 2) * Real.cos (radians p.lat / 2),
        -(Real.cos (radians p.lon / 2) * Real.sin (radians p.lat / 2)),
        Real.sin (radians p.lon / 2) * Real.cos (radians p.lat / 2),
        Real.sin (radians p.lon / 2) * Real.sin (radians p.lat / 2)⟩ := by
  rw [orientation, Orientation.turn_of_onSphere onSphere_polarAxis,
    Orientation.turn_of_onSphere onSphere_eastWestAxis, neg_div, Real.cos_neg, Real.sin_neg]
  ext <;> norm_num [Orientation.compose, polarAxis, eastWestAxis]

/-- A place as a point of the sphere, by its latitude and longitude. -/
lemma toVec3_eq :
    p.toVec3 =
      ⟨Real.cos (radians p.lat) * Real.sin (radians p.lon), Real.sin (radians p.lat),
        Real.cos (radians p.lat) * Real.cos (radians p.lon)⟩ := by
  have hlat := Real.sin_sq_add_cos_sq (radians p.lat / 2)
  have hlon := Real.sin_sq_add_cos_sq (radians p.lon / 2)
  rw [toVec3, orientation_eq, sin_eq_half (radians p.lat), cos_eq_half (radians p.lat),
    sin_eq_half (radians p.lon), cos_eq_half (radians p.lon)]
  set c := Real.cos (radians p.lat / 2)
  set s := Real.sin (radians p.lat / 2)
  set c' := Real.cos (radians p.lon / 2)
  set s' := Real.sin (radians p.lon / 2)
  ext <;> norm_num [Orientation.rotate, baseVector]
  · linear_combination (-2 * c' * s') * hlat
  · linear_combination (2 * s * c) * hlon
  · linear_combination (-2 * c' ^ 2) * hlat - 2 * c ^ 2 * hlon

/-- How far a place is from the polar axis. -/
lemma horizontal_toVec3 : p.toVec3.horizontal = Real.cos (radians p.lat) := by
  have hlon := Real.sin_sq_add_cos_sq (radians p.lon)
  rw [Vec3.horizontal, toVec3_eq, sqrt_real]
  refine (congrArg Real.sqrt ?_).trans (Real.sqrt_mul_self p.cos_lat_nonneg)
  linear_combination (Real.cos (radians p.lat)) ^ 2 * hlon

end GeoPoint

end GreatCircle
