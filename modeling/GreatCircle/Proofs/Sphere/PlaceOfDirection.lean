/-
# The place of a direction

`Vec3.toGeoPoint` takes vectors of any length.  Off the polar cap it looks at the direction only,
and tells any two directions apart (`Vec3.toGeoPoint_eq_iff`).  The place points in the direction of
the vector; on the polar cap it is a pole (`toGeoPoint_of_direction`).
-/
import GreatCircle.Proofs.Sphere.VectorPlace

namespace GreatCircle

open Scalar

namespace Vec3

/-- One vector is a positive multiple of the other. -/
def SameDirection (v w : Vec3 ℝ) : Prop := ∃ c : ℝ, 0 < c ∧ w = c • v

section Multiple

variable {c : ℝ} (hc : 0 < c) (v : Vec3 ℝ)
include hc

lemma horizontal_smul : (c • v).horizontal = c * v.horizontal := by
  have hsum : (c • v).z * (c • v).z + (c • v).x * (c • v).x =
      c * c * (v.z * v.z + v.x * v.x) := by
    simp only [smul_x, smul_z]
    ring
  rw [horizontal, horizontal, hsum, sqrt_real, sqrt_real, Real.sqrt_mul (mul_self_nonneg c),
    Real.sqrt_mul_self hc.le]

lemma latitude_smul : (c • v).latitude = v.latitude := by
  rw [latitude, latitude, horizontal_smul hc, smul_y, mul_div_mul_left _ _ hc.ne']

lemma longitude_smul : (c • v).longitude = v.longitude := by
  have hratio : (c • v).z / (c • v).x = v.z / v.x := by
    rw [smul_z, smul_x, mul_div_mul_left _ _ hc.ne']
  rcases lt_trichotomy v.x 0 with hneg | hzero | hpos
  · rw [longitude_of_neg hneg, longitude_of_neg (mul_neg_of_pos_of_neg hc hneg), hratio]
  · have hsign : (c • v).z < 0 ↔ v.z < 0 := by
      rw [smul_z, mul_neg_iff]
      exact ⟨fun h => h.elim And.right fun h => absurd hc h.1.not_gt, fun h => Or.inl ⟨hc, h⟩⟩
    rw [longitude_of_eq_zero hzero, longitude_of_eq_zero (by rw [smul_x, hzero, mul_zero])]
    simp only [hsign]
  · rw [longitude_of_pos hpos, longitude_of_pos (mul_pos hc hpos), hratio]

end Multiple

section OffCap

variable {v w : Vec3 ℝ} (hv : poleTolerance ≤ v.horizontal)
include hv

lemma toGeoPoint_off_cap :
    v.toGeoPoint = GeoPoint.ofDegrees (clamp 90.0 v.latitude) (clamp 180.0 v.longitude) :=
  if_neg (not_lt.2 hv)

lemma norm_pos_off_cap : 0 < v.norm := by
  have hh := (polar_lat_place hv).2
  refine lt_of_le_of_ne (Real.sqrt_nonneg _) fun hzero => ?_
  rw [← hzero, zero_mul] at hh
  exact (horizontal_pos hv).ne' hh

lemma normalized_off_cap : v.normalized = .ok v.place.toVec3 := by
  have hpos := norm_pos_off_cap hv
  have hdirection := eq_smul_toVec3_place hv
  have hquotient (x y : ℝ) (h : x = v.norm * y) : x / v.norm = y := by
    rw [h, mul_div_cancel_left₀ _ hpos.ne']
  rw [normalized, if_neg (mt beq_zero_real.1 hpos.ne')]
  refine congrArg Except.ok (Vec3.ext ?_ ?_ ?_)
  · exact hquotient _ _ (congrArg Vec3.x hdirection)
  · exact hquotient _ _ (congrArg Vec3.y hdirection)
  · exact hquotient _ _ (congrArg Vec3.z hdirection)

/-- Off the polar cap two vectors have the same place if and only if they have the same
direction. -/
lemma toGeoPoint_eq_iff (hw : poleTolerance ≤ w.horizontal) :
    v.toGeoPoint = w.toGeoPoint ↔ v.SameDirection w := by
  constructor
  · intro h
    rw [toGeoPoint_eq_place, toGeoPoint_eq_place] at h
    have hplace : v.place = w.place := Except.ok.inj h
    have hpos := norm_pos_off_cap hv
    refine ⟨w.norm / v.norm, div_pos (norm_pos_off_cap hw) hpos, ?_⟩
    have hvdir := eq_smul_toVec3_place hv
    have hwdir := eq_smul_toVec3_place hw
    rw [← hplace] at hwdir
    calc w = w.norm • v.place.toVec3 := hwdir
      _ = (w.norm / v.norm) • v.norm • v.place.toVec3 := by
        ext <;> simp only [smul_x, smul_y, smul_z] <;> field_simp
      _ = (w.norm / v.norm) • v := by rw [← hvdir]
  · rintro ⟨c, hc, rfl⟩
    rw [toGeoPoint_off_cap hv, toGeoPoint_off_cap hw, latitude_smul hc, longitude_smul hc]

end OffCap

/-- On the polar cap the place is a pole. -/
lemma toGeoPoint_on_cap {v : Vec3 ℝ} (hv : v.horizontal < poleTolerance) :
    ∃ p, v.toGeoPoint = .ok p ∧ p.lat = (if v.y < 0 then -90 else 90) ∧ p.lon = 0 := by
  refine ⟨v.place, v.toGeoPoint_eq_place, ?_, ?_⟩
  · have hlat : v.place.lat = withSignOf 90.0 v.y := by
      rw [place, if_pos hv]
    rw [hlat, withSignOf_real]
    split <;> norm_num
  · rw [place, if_pos hv]
    norm_num

end Vec3

/-- **The place of a direction.**  Off the polar cap a vector has a place, and the place points in
the direction of the vector; it is the place of just the vectors of this direction.  On the polar
cap a vector has a pole for its place, the southern one if it points down, with longitude 0. -/
theorem toGeoPoint_of_direction (v : Vec3 ℝ) :
    (1.0e-12 ≤ v.horizontal →
      (∃ p, v.toGeoPoint = .ok p ∧ v.normalized = .ok p.toVec3) ∧
      ∀ w : Vec3 ℝ, 1.0e-12 ≤ w.horizontal →
        (v.toGeoPoint = w.toGeoPoint ↔ v.SameDirection w)) ∧
    (v.horizontal < 1.0e-12 →
      ∃ p, v.toGeoPoint = .ok p ∧ p.lat = (if v.y < 0 then -90 else 90) ∧ p.lon = 0) :=
  ⟨fun hv => ⟨⟨v.place, v.toGeoPoint_eq_place, Vec3.normalized_off_cap hv⟩,
    fun _ hw => Vec3.toGeoPoint_eq_iff hv hw⟩, fun hv => Vec3.toGeoPoint_on_cap hv⟩

/-- A vector to the west of length two has a place, and one three times as long has the same. -/
theorem toGeoPoint_of_direction_west :
    let v : Vec3 ℝ := ⟨-2, 0, 0⟩
    let w : Vec3 ℝ := ⟨-6, 0, 0⟩
    1.0e-12 ≤ v.horizontal ∧ 1.0e-12 ≤ w.horizontal ∧
      v.toGeoPoint = w.toGeoPoint ∧ ∃ p, v.toGeoPoint = .ok p ∧ v.normalized = .ok p.toVec3 := by
  intro v w
  have htwo : v.horizontal = 2 := by
    have hsum : v.z * v.z + v.x * v.x = 2 * 2 := by norm_num [v]
    rw [Vec3.horizontal, hsum, sqrt_real, Real.sqrt_mul_self (by norm_num)]
  have hv : 1.0e-12 ≤ v.horizontal := by
    rw [htwo]
    norm_num
  have hw : w = (3 : ℝ) • v := by
    ext <;> norm_num [v, w]
  have hwoff : 1.0e-12 ≤ w.horizontal := by
    rw [hw, Vec3.horizontal_smul (by norm_num), htwo]
    norm_num
  obtain ⟨hplace, hsame⟩ := (toGeoPoint_of_direction v).1 hv
  exact ⟨hv, hwoff, (hsame w hwoff).2 ⟨3, by norm_num, hw⟩, hplace⟩

end GreatCircle
