/-
# Places with the same vector

The orientation of a place is the product of two half-angle quaternions, and its vector is where
that carries the point `(0, 0, 1)`.  What comes out is the usual point of the sphere for a latitude
and a longitude (`GeoPoint.toVec3_closed_form`).  Two places have the same vector just if they
are one place of the globe: at a pole the longitude does not count, and the antimeridian has two
longitudes (`GeoPoint.SamePlace`).
-/
import Mathlib.Analysis.SpecialFunctions.Trigonometric.Angle
import GreatCircle.Proofs.Sphere.GroundDistance
import GreatCircle.Proofs.Sphere.VersorChain

namespace GreatCircle

open Scalar

namespace GeoPoint

/-- Two places are the same place of the globe. -/
inductive SamePlace (p q : GeoPoint ℝ) : Prop
  /-- They are spelled alike. -/
  | alike (lat : p.lat = q.lat) (lon : p.lon = q.lon)
  /-- They are the same pole. -/
  | pole (lat : p.lat = q.lat) (isPole : |p.lat| = 90)
  /-- They lie on the antimeridian, on the same parallel. -/
  | antimeridian (lat : p.lat = q.lat) (first : |p.lon| = 180) (second : |q.lon| = 180)

section Two

variable {p q : GeoPoint ℝ}

lemma SamePlace.lat_eq (h : p.SamePlace q) : p.lat = q.lat := by
  cases h with
  | alike lat _ => exact lat
  | pole lat _ => exact lat
  | antimeridian lat _ _ => exact lat

/-- At a pole the distance from the polar axis is zero. -/
lemma cos_lat_of_pole (h : |p.lat| = 90) : Real.cos (radians p.lat) = 0 := by
  rcases eq_or_eq_neg_of_abs_eq h with hlat | hlat
  · rw [hlat, radians_quarter_turn, Real.cos_pi_div_two]
  · rw [hlat, radians_neg, radians_quarter_turn, Real.cos_neg, Real.cos_pi_div_two]

lemma cos_lat_pos_of_not_pole (h : |p.lat| ≠ 90) : 0 < Real.cos (radians p.lat) := by
  have hlt : |radians p.lat| < Real.pi / 2 := by
    have hlat : |p.lat| < 90 := lt_of_le_of_ne p.abs_lat_le h
    rw [radians_real, abs_mul, abs_of_pos (by positivity : 0 < Real.pi / 180)]
    nlinarith [Real.pi_pos]
  exact Real.cos_pos_of_mem_Ioo (abs_lt.1 hlt)

/-- Both spellings of the antimeridian point away from the prime meridian. -/
lemma sin_cos_of_antimeridian (h : |p.lon| = 180) :
    Real.sin (radians p.lon) = 0 ∧ Real.cos (radians p.lon) = -1 := by
  rcases eq_or_eq_neg_of_abs_eq h with hlon | hlon
  · rw [hlon, radians_half_turn, Real.sin_pi, Real.cos_pi]
    exact ⟨rfl, rfl⟩
  · rw [hlon, radians_neg, radians_half_turn, Real.sin_neg, Real.cos_neg, Real.sin_pi,
      Real.cos_pi, neg_zero]
    exact ⟨rfl, rfl⟩

/-- Latitudes are told apart by their sines. -/
lemma lat_eq_of_sin_eq (h : Real.sin (radians p.lat) = Real.sin (radians q.lat)) :
    p.lat = q.lat := by
  have hp := abs_le.1 p.abs_radians_lat_le
  have hq := abs_le.1 q.abs_radians_lat_le
  exact radians_inj.1 (Real.injOn_sin hp hq h)

/-- Longitudes in one direction are the same, or the two of the antimeridian. -/
lemma lon_eq_or_of_direction (hsin : Real.sin (radians p.lon) = Real.sin (radians q.lon))
    (hcos : Real.cos (radians p.lon) = Real.cos (radians q.lon)) :
    p.lon = q.lon ∨ |p.lon| = 180 ∧ |q.lon| = 180 := by
  obtain ⟨k, hk⟩ := Real.Angle.angle_eq_iff_two_pi_dvd_sub.1 (Real.Angle.cos_sin_inj hcos hsin)
  have hturns : p.lon - q.lon = 360 * k := by
    rw [← radians_inj, radians_sub, radians_turns, hk]
  obtain ⟨hplow, hphigh⟩ := abs_le.1 p.abs_lon_le
  obtain ⟨hqlow, hqhigh⟩ := abs_le.1 q.abs_lon_le
  -- both longitudes are within half a turn, so they are at most one turn apart
  have hlow : (-1 : ℤ) ≤ k := by
    have : (-1 : ℝ) ≤ k := by linarith
    exact_mod_cast this
  have hhigh : k ≤ (1 : ℤ) := by
    have : (k : ℝ) ≤ 1 := by linarith
    exact_mod_cast this
  obtain rfl | rfl | rfl : k = -1 ∨ k = 0 ∨ k = 1 := by omega
  all_goals push_cast at hturns
  · have hp : p.lon = -180 := by linarith
    have hq : q.lon = 180 := by linarith
    rw [hp, hq]
    norm_num
  · left
    linarith
  · have hp : p.lon = 180 := by linarith
    have hq : q.lon = -180 := by linarith
    rw [hp, hq]
    norm_num

lemma SamePlace.toVec3_eq (h : p.SamePlace q) : p.toVec3 = q.toVec3 := by
  rw [p.toVec3_eq, q.toVec3_eq, ← h.lat_eq]
  cases h with
  | alike _ hlon => rw [hlon]
  | pole _ hpole => rw [cos_lat_of_pole hpole, zero_mul, zero_mul, zero_mul, zero_mul]
  | antimeridian _ hp hq =>
    rw [(sin_cos_of_antimeridian hp).1, (sin_cos_of_antimeridian hp).2,
      (sin_cos_of_antimeridian hq).1, (sin_cos_of_antimeridian hq).2]

/-- A vector tells the place of the globe, but not how it is spelled. -/
lemma samePlace_of_toVec3_eq (h : p.toVec3 = q.toVec3) : p.SamePlace q := by
  rw [p.toVec3_eq, q.toVec3_eq, Vec3.mk.injEq] at h
  obtain ⟨hx, hy, hz⟩ := h
  have hlat := lat_eq_of_sin_eq hy
  by_cases hpole : |p.lat| = 90
  · exact .pole hlat hpole
  · have hcos := (cos_lat_pos_of_not_pole hpole).ne'
    rw [← hlat] at hx hz
    rcases lon_eq_or_of_direction (mul_left_cancel₀ hcos hx) (mul_left_cancel₀ hcos hz) with
      hlon | ⟨hp, hq⟩
    · exact .alike hlat hlon
    · exact .antimeridian hlat hp hq

end Two

/-- The orientation of a place carries the base vector to it. -/
lemma orientation_rotate_base (p : GeoPoint ℝ) : p.orientation.rotate ⟨0, 0, 1⟩ = p.toVec3 := by
  rw [toVec3, baseVector]
  norm_num

/-- **A place as a point of the sphere.**  The vector of a place is the usual one of its latitude
and its longitude, and has length one.  The orientation of the place is a versor that carries the
point `(0, 0, 1)` there.  Two places have the same vector just if they are the same place of the
globe: so both longitudes of the antimeridian give one vector, and so do all longitudes at a
pole. -/
theorem toVec3_closed_form (p : GeoPoint ℝ) :
    p.toVec3 =
        ⟨Real.cos (p.lat * (Real.pi / 180)) * Real.sin (p.lon * (Real.pi / 180)),
          Real.sin (p.lat * (Real.pi / 180)),
          Real.cos (p.lat * (Real.pi / 180)) * Real.cos (p.lon * (Real.pi / 180))⟩ ∧
      p.toVec3.OnSphere ∧ p.orientation.IsVersor ∧ p.orientation.rotate ⟨0, 0, 1⟩ = p.toVec3 ∧
      ∀ q : GeoPoint ℝ, p.toVec3 = q.toVec3 ↔ p.SamePlace q := by
  refine ⟨?_, p.onSphere_toVec3, Orientation.isVersor_orientation p, p.orientation_rotate_base, ?_⟩
  · rw [p.toVec3_eq, radians_real, radians_real]
  · intro q
    exact ⟨samePlace_of_toVec3_eq, SamePlace.toVec3_eq⟩

end GeoPoint

end GreatCircle
