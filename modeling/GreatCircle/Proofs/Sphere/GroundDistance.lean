/-
# Distances on the ground

The haversine formula works on latitudes and longitudes, `Vec3.angle` on vectors.  Both measure
the same central angle: the haversine of two places is the squared sine of half the angle between
their vectors (`GeoPoint.haversine_eq`), so the distance is the radius times the angle
(`GeoPoint.distance_eq`).  The bound in the formula is there for rounding alone: an exact haversine
lies between 0 and 1, wherever on the globe the places are
(`GeoPoint.haversine_measures_central_angle`).
-/
import GreatCircle.Proofs.Sphere.PlaceVector

namespace GreatCircle

open Scalar

/-- A number up to the bound is left alone. -/
lemma Scalar.atMost_of_le {bound x : ℝ} (h : x ≤ bound) : atMost bound x = x := by
  unfold atMost
  split
  · rfl
  · linarith

namespace GeoPoint

lemma onSphere_toVec3 (p : GeoPoint ℝ) : p.toVec3.OnSphere := by
  have hlat := Real.sin_sq_add_cos_sq (radians p.lat)
  have hlon := Real.sin_sq_add_cos_sq (radians p.lon)
  rw [Vec3.onSphere_iff, toVec3_eq, Vec3.dot_def]
  linear_combination (Real.cos (radians p.lat)) ^ 2 * hlon + hlat

variable (a b : GeoPoint ℝ)

lemma dot_toVec3 :
    a.toVec3.dot b.toVec3 =
      Real.sin (radians a.lat) * Real.sin (radians b.lat) +
        Real.cos (radians a.lat) * Real.cos (radians b.lat) *
          Real.cos (radians b.lon - radians a.lon) := by
  rw [toVec3_eq, toVec3_eq, Vec3.dot_def, Real.cos_sub]
  ring

/-- The haversine is the squared sine of half the central angle. -/
lemma haversine_eq :
    a.haversine b =
      Real.sin (a.toVec3.angle b.toVec3 / 2) * Real.sin (a.toVec3.angle b.toVec3 / 2) := by
  have hangle := Vec3.cos_angle a.onSphere_toVec3 b.onSphere_toVec3
  have hdot := dot_toVec3 a b
  have hlat := cos_eq_half (radians b.lat - radians a.lat)
  have hlon := cos_eq_half (radians b.lon - radians a.lon)
  rw [cos_eq_half, Real.cos_sq'] at hangle
  rw [Real.cos_sq', Real.cos_sub] at hlat
  rw [Real.cos_sq'] at hlon
  rw [hlon] at hdot
  have hformula : a.haversine b =
      Real.sin ((radians b.lat - radians a.lat) / 2) ^ 2 +
        Real.cos (radians a.lat) * Real.cos (radians b.lat) *
          Real.sin ((radians b.lon - radians a.lon) / 2) ^ 2 := by
    have hdiff : radians (b.lon - a.lon) = radians b.lon - radians a.lon := by
      rw [radians_real, radians_real, radians_real, sub_mul]
    norm_num [haversine, hdiff]
    ring
  rw [hformula]
  linear_combination (1 / 2) * hangle + (1 / 2) * hdot + (1 / 2) * hlat

/-- Half the central angle is at most a quarter turn, so its sine is not negative. -/
lemma sqrt_haversine :
    sqrt (a.haversine b) = Real.sin (a.toVec3.angle b.toVec3 / 2) := by
  have hθ := Vec3.angle_nonneg a.onSphere_toVec3 b.onSphere_toVec3
  have hθπ := Vec3.angle_le_pi a.onSphere_toVec3 b.onSphere_toVec3
  rw [haversine_eq, sqrt_real, Real.sqrt_mul_self (sin_half_nonneg hθ hθπ)]

/-- The bound in the distance never takes effect. -/
lemma atMost_sqrt_haversine : atMost 1.0 (sqrt (a.haversine b)) = sqrt (a.haversine b) := by
  refine atMost_of_le ?_
  rw [sqrt_haversine]
  norm_num
  exact Real.sin_le_one _

lemma asin_sqrt_haversine : asin (sqrt (a.haversine b)) = a.toVec3.angle b.toVec3 / 2 := by
  have hθ := Vec3.angle_nonneg a.onSphere_toVec3 b.onSphere_toVec3
  have hθπ := Vec3.angle_le_pi a.onSphere_toVec3 b.onSphere_toVec3
  rw [sqrt_haversine]
  exact Real.arcsin_sin (by linarith [Real.pi_pos]) (by linarith)

/-- The distance is the radius times the central angle. -/
lemma distance_eq (radius : ℝ) :
    a.distance b radius = radius * a.toVec3.angle b.toVec3 := by
  rw [distance, atMost_sqrt_haversine, asin_sqrt_haversine]
  norm_num
  ring

lemma haversine_mem : 0 ≤ a.haversine b ∧ a.haversine b ≤ 1 := by
  rw [haversine_eq, ← sq]
  exact ⟨sq_nonneg _, Real.sin_sq_le_one _⟩

/-- **One central angle, measured twice.**  For any two places, poles, opposite places and
longitudes more than half a turn apart included, the haversine is a number from 0 to 1, which has a
square root with an inverse sine, and bounding that root by 1 changes nothing.  Twice its inverse
sine is the angle between the vectors of the places, and the distance is the radius times that
angle. -/
theorem haversine_measures_central_angle (radius : ℝ) :
    (0 ≤ a.haversine b ∧ a.haversine b ≤ 1) ∧
      atMost 1.0 (sqrt (a.haversine b)) = sqrt (a.haversine b) ∧
      2 * asin (sqrt (a.haversine b)) = a.toVec3.angle b.toVec3 ∧
      a.distance b radius = radius * a.toVec3.angle b.toVec3 := by
  refine ⟨haversine_mem a b, atMost_sqrt_haversine a b, ?_, distance_eq a b radius⟩
  rw [asin_sqrt_haversine]
  ring

end GeoPoint

end GreatCircle
