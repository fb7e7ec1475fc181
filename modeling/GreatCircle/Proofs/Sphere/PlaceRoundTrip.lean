/-
# From a place to its vector and back

`Vec3.toGeoPoint` recovers latitude and longitude with inverse tangents and fixed offsets.  The
offsets are right in every quadrant and on the meridians between them
(`Vec3.longitude_of_polar`), so a place comes back from its vector as it was, save that the
antimeridian is spelled 180 and that a pole has the longitude 0: `toGeoPoint_toVec3`.
-/
import GreatCircle.Proofs.Sphere.PlaceVector

namespace GreatCircle

open Scalar

namespace Vec3

variable {v : Vec3 ℝ}

/-- The latitude of a direction in polar coordinates. -/
lemma latitude_of_polar {r φ : ℝ} (hr : 0 < r) (hφ : -(Real.pi / 2) < φ ∧ φ < Real.pi / 2)
    (hy : v.y = r * Real.sin φ) (hh : v.horizontal = r * Real.cos φ) :
    v.latitude = degrees φ := by
  rw [latitude, hy, hh, mul_div_mul_left _ _ hr.ne', ← Real.tan_eq_sin_div_cos, atan_real,
    Real.arctan_tan hφ.1 hφ.2]

lemma longitude_of_pos (hx : 0 < v.x) :
    v.longitude = 90 - degrees (Real.arctan (v.z / v.x)) := by
  norm_num [longitude, hx.le, hx.ne']

lemma longitude_of_neg (hx : v.x < 0) :
    v.longitude = -(90 + degrees (Real.arctan (v.z / v.x))) := by
  norm_num [longitude, hx.not_ge, hx.ne]

lemma longitude_of_eq_zero (hx : v.x = 0) : v.longitude = if v.z < 0 then 180 else 0 := by
  norm_num [longitude, hx, withSignOf_real]
  split <;> norm_num

/-- The longitude of a direction in polar coordinates. -/
lemma longitude_of_polar {r ψ : ℝ} (hr : 0 < r) (hψ : -Real.pi < ψ ∧ ψ ≤ Real.pi)
    (hx : v.x = r * Real.sin ψ) (hz : v.z = r * Real.cos ψ) :
    v.longitude = degrees ψ := by
  obtain ⟨hlow, hhigh⟩ := hψ
  have hratio : v.z / v.x = Real.tan (Real.pi / 2 - ψ) := by
    rw [hx, hz, mul_div_mul_left _ _ hr.ne', Real.tan_pi_div_two_sub, Real.tan_eq_sin_div_cos,
      inv_div]
  rcases lt_trichotomy ψ 0 with hneg | rfl | hpos
  · -- the west: the inverse tangent is that of the angle half a turn further
    have hsin := Real.sin_neg_of_neg_of_neg_pi_lt hneg hlow
    rw [longitude_of_neg (by rw [hx]; exact mul_neg_of_pos_of_neg hr hsin), hratio,
      ← Real.tan_sub_pi, Real.arctan_tan (by linarith) (by linarith), degrees_sub, degrees_sub,
      degrees_pi, degrees_pi_div_two]
    ring
  · -- the prime meridian
    have hzpos : ¬ v.z < 0 := by
      rw [hz, Real.cos_zero, mul_one]
      exact hr.not_gt
    rw [longitude_of_eq_zero (by rw [hx, Real.sin_zero, mul_zero]), if_neg hzpos, degrees_real,
      zero_mul]
  · rcases hhigh.lt_or_eq with hlt | rfl
    · -- the east
      have hsin := Real.sin_pos_of_pos_of_lt_pi hpos hlt
      rw [longitude_of_pos (by rw [hx]; exact mul_pos hr hsin), hratio,
        Real.arctan_tan (by linarith) (by linarith), degrees_sub, degrees_pi_div_two]
      ring
    · -- the antimeridian
      have hzneg : v.z < 0 := by
        rw [hz, Real.cos_pi]
        linarith
      rw [longitude_of_eq_zero (by rw [hx, Real.sin_pi, mul_zero]), if_pos hzneg, degrees_pi]

end Vec3

namespace GeoPoint

variable (p : GeoPoint ℝ)

/-- The longitude with the antimeridian spelled 180. -/
noncomputable def spelledLon : ℝ := if p.lon = -180 then 180 else p.lon

lemma spelledLon_mem : -180 < p.spelledLon ∧ p.spelledLon ≤ 180 := by
  obtain ⟨hlow, hhigh⟩ := abs_le.1 p.abs_lon_le
  unfold spelledLon
  split
  · norm_num
  · rename_i hne
    exact ⟨lt_of_le_of_ne hlow (Ne.symm hne), hhigh⟩

/-- Spelling the antimeridian does not change the direction. -/
lemma sin_cos_spelledLon :
    Real.sin (radians p.spelledLon) = Real.sin (radians p.lon) ∧
      Real.cos (radians p.spelledLon) = Real.cos (radians p.lon) := by
  unfold spelledLon
  split
  · rename_i hlon
    simp [hlon, radians_neg]
  · exact ⟨rfl, rfl⟩

/-- Height has the sign of latitude. -/
lemma toVec3_y_neg_iff : p.toVec3.y < 0 ↔ p.lat < 0 := by
  obtain ⟨hlow, hhigh⟩ := abs_le.1 p.abs_radians_lat_le
  have hsign : radians p.lat < 0 ↔ p.lat < 0 := by
    have h := radians_lt_radians (x := p.lat) (y := 0)
    rwa [radians_zero] at h
  rw [toVec3_eq, ← hsign]
  constructor
  · intro hsin
    refine lt_of_not_ge fun hge => hsin.not_ge ?_
    exact Real.sin_nonneg_of_nonneg_of_le_pi hge (by linarith [Real.pi_pos])
  · intro hneg
    exact Real.sin_neg_of_neg_of_neg_pi_lt hneg (by linarith [Real.pi_pos])

lemma latitude_toVec3 (h : 0 < Real.cos (radians p.lat)) : p.toVec3.latitude = p.lat := by
  obtain ⟨hlow, hhigh⟩ := abs_le.1 p.abs_radians_lat_le
  -- at a quarter turn the cosine would be zero
  have hne (hquarter : |radians p.lat| = Real.pi / 2) : False := by
    rw [← Real.cos_abs, hquarter, Real.cos_pi_div_two] at h
    exact h.false
  have hlt : |radians p.lat| < Real.pi / 2 := lt_of_le_of_ne p.abs_radians_lat_le hne
  rw [Vec3.latitude_of_polar one_pos (abs_lt.1 hlt), degrees_radians]
  · rw [toVec3_eq, one_mul]
  · rw [horizontal_toVec3, one_mul]

lemma longitude_toVec3 (h : 0 < Real.cos (radians p.lat)) :
    p.toVec3.longitude = p.spelledLon := by
  obtain ⟨hlow, hhigh⟩ := p.spelledLon_mem
  obtain ⟨hsin, hcos⟩ := p.sin_cos_spelledLon
  have hmem : -Real.pi < radians p.spelledLon ∧ radians p.spelledLon ≤ Real.pi := by
    rw [← radians_half_turn, ← radians_neg, radians_lt_radians, radians_le_radians]
    exact ⟨hlow, hhigh⟩
  rw [Vec3.longitude_of_polar h hmem, degrees_radians]
  · rw [toVec3_eq, hsin]
  · rw [toVec3_eq, hcos]

/-- A place that counts as a pole comes back as that pole. -/
lemma toGeoPoint_at_pole (hpole : Real.cos (radians p.lat) < 1.0e-12) :
    ∃ q, p.toVec3.toGeoPoint = .ok q ∧ q.lon = 0 ∧
      (0 < p.lat ∧ q.lat = 90 ∨ p.lat < 0 ∧ q.lat = -90) := by
  have hbranch : p.toVec3.toGeoPoint = ofDegrees (withSignOf 90.0 p.toVec3.y) 0.0 := by
    rw [Vec3.toGeoPoint, p.horizontal_toVec3]
    exact if_pos hpole
  -- so near to a pole the latitude has a sign
  have hne : p.lat ≠ 0 := fun hzero => by
    rw [hzero, radians_zero, Real.cos_zero] at hpole
    norm_num at hpole
  have hsize : |withSignOf (90.0 : ℝ) p.toVec3.y| ≤ 90 := by
    rw [withSignOf_real]
    split <;> norm_num
  have hzero : |(0.0 : ℝ)| ≤ 180 := by norm_num
  obtain ⟨q, hq, hqLat, hqLon⟩ := exists_ofDegrees hsize hzero
  refine ⟨q, hbranch.trans hq, ?_, ?_⟩
  · rw [hqLon]
    norm_num
  · rw [hqLat, withSignOf_real]
    simp only [p.toVec3_y_neg_iff]
    rcases lt_or_gt_of_ne hne with hneg | hpos
    · exact Or.inr ⟨hneg, by norm_num [hneg]⟩
    · exact Or.inl ⟨hpos, by norm_num [hpos.not_gt]⟩

/-- A place off the poles comes back with its latitude and its longitude. -/
lemma toGeoPoint_off_pole (hoff : 1.0e-12 ≤ Real.cos (radians p.lat)) :
    ∃ q, p.toVec3.toGeoPoint = .ok q ∧ q.lat = p.lat ∧ q.lon = p.spelledLon := by
  have hpos : 0 < Real.cos (radians p.lat) := by
    norm_num at hoff
    linarith
  obtain ⟨hlow, hhigh⟩ := p.spelledLon_mem
  have hlon : |p.spelledLon| ≤ 180 := abs_le.2 ⟨hlow.le, hhigh⟩
  obtain ⟨q, hq, hqLat, hqLon⟩ := exists_ofDegrees p.abs_lat_le hlon
  refine ⟨q, ?_, hqLat, hqLon⟩
  have hbranch : p.toVec3.toGeoPoint =
      ofDegrees (clamp 90.0 p.toVec3.latitude) (clamp 180.0 p.toVec3.longitude) := by
    rw [Vec3.toGeoPoint, p.horizontal_toVec3]
    exact if_neg (not_lt.2 hoff)
  -- both coordinates are in range already, so clamping leaves them alone
  rw [hbranch, p.latitude_toVec3 hpos, p.longitude_toVec3 hpos, clamp_of_abs_le,
    clamp_of_abs_le, hq]
  · norm_num
    exact hlon
  · norm_num
    exact p.abs_lat_le

end GeoPoint

/-- **The round trip.**  A place off the poles comes back from its vector with the same latitude
and longitude, the antimeridian spelled 180; a place at a pole comes back as the pole of the sign
of its latitude, with longitude 0. -/
theorem toGeoPoint_toVec3 (p : GeoPoint ℝ) :
    ∃ q, p.toVec3.toGeoPoint = .ok q ∧
      (1.0e-12 ≤ Real.cos (radians p.lat) →
        q.lat = p.lat ∧ q.lon = if p.lon = -180 then 180 else p.lon) ∧
      (Real.cos (radians p.lat) < 1.0e-12 →
        q.lon = 0 ∧ (0 < p.lat ∧ q.lat = 90 ∨ p.lat < 0 ∧ q.lat = -90)) := by
  rcases lt_or_ge (Real.cos (radians p.lat)) 1.0e-12 with hpole | hoff
  · obtain ⟨q, hq, hend⟩ := p.toGeoPoint_at_pole hpole
    exact ⟨q, hq, fun hoff => absurd hpole (not_lt.2 hoff), fun _ => hend⟩
  · obtain ⟨q, hq, hsame⟩ := p.toGeoPoint_off_pole hoff
    exact ⟨q, hq, fun _ => hsame, fun hpole => absurd hpole (not_lt.2 hoff)⟩

end GreatCircle
