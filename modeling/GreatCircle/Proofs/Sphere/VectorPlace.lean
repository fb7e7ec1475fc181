/-
# The place of a vector

Over the real numbers `Vec3.toGeoPoint` has an answer for every vector, of any length: the place
`Vec3.place` (`Vec3.toGeoPoint_eq_place`).  Off the polar cap the place is in the direction of the
vector (`Vec3.eq_smul_toVec3_place`), so a point of the sphere is recovered from its place
(`Vec3.OnSphere.toVec3_place`).
-/
import GreatCircle.Proofs.Sphere.PlaceRoundTrip

namespace GreatCircle

open Scalar

/-- A clamped number is within the limit. -/
lemma Scalar.clamp_mem {limit : ℝ} (h : 0 ≤ limit) (x : ℝ) :
    -limit ≤ clamp limit x ∧ clamp limit x ≤ limit := by
  have hmost : atMost limit x ≤ limit := by
    unfold atMost
    split
    · exact le_of_lt ‹_›
    · exact le_rfl
  unfold clamp atLeast
  split
  · exact ⟨le_of_lt ‹_›, hmost⟩
  · exact ⟨le_rfl, by linarith⟩

namespace Vec3

variable (v : Vec3 ℝ)

/-- The latitude of the pole that a vector near the polar axis points to. -/
lemma poleLatitude_mem : -90.0 ≤ withSignOf (90.0 : ℝ) v.y ∧ withSignOf (90.0 : ℝ) v.y ≤ 90.0 := by
  rw [withSignOf_real]
  split <;> norm_num

/-- The place that a vector points to: near the polar axis a pole, with longitude 0; elsewhere
that of its latitude and longitude. -/
noncomputable def place : GeoPoint ℝ :=
  if v.horizontal < poleTolerance then
    { lat := withSignOf 90.0 v.y
      lon := 0.0
      le_lat := v.poleLatitude_mem.1
      lat_le := v.poleLatitude_mem.2
      le_lon := by norm_num
      lon_le := by norm_num }
  else
    { lat := clamp 90.0 v.latitude
      lon := clamp 180.0 v.longitude
      le_lat := (clamp_mem (by norm_num) _).1
      lat_le := (clamp_mem (by norm_num) _).2
      le_lon := (clamp_mem (by norm_num) _).1
      lon_le := (clamp_mem (by norm_num) _).2 }

/-- **Every vector has a place.** -/
theorem toGeoPoint_eq_place : v.toGeoPoint = .ok v.place := by
  rw [← GeoPoint.ofDegrees_self v.place (isFinite_real _) (isFinite_real _)]
  unfold toGeoPoint place
  split <;> rfl

lemma horizontal_mul_self : v.horizontal * v.horizontal = v.z * v.z + v.x * v.x :=
  Real.mul_self_sqrt (add_nonneg (mul_self_nonneg _) (mul_self_nonneg _))

variable {v}

/-- The longitude of a direction off the polar axis is that of its polar coordinates. -/
lemma exists_polar_longitude (h : 0 < v.horizontal) :
    ∃ ψ : ℝ, (-Real.pi < ψ ∧ ψ ≤ Real.pi) ∧ v.longitude = degrees ψ ∧
      v.x = v.horizontal * Real.sin ψ ∧ v.z = v.horizontal * Real.cos ψ := by
  have hnorm : ‖(⟨v.z, v.x⟩ : ℂ)‖ = v.horizontal := by
    rw [horizontal, sqrt_real, Complex.norm_def, Complex.normSq_mk]
  have hx := Complex.norm_mul_sin_arg ⟨v.z, v.x⟩
  have hz := Complex.norm_mul_cos_arg ⟨v.z, v.x⟩
  rw [hnorm] at hx hz
  have hψ := Complex.arg_mem_Ioc ⟨v.z, v.x⟩
  exact ⟨_, hψ, longitude_of_polar h hψ hx.symm hz.symm, hx.symm, hz.symm⟩

/-- The latitude of a direction off the polar axis is that of its polar coordinates. -/
lemma exists_polar_latitude (h : 0 < v.horizontal) :
    ∃ φ : ℝ, (-(Real.pi / 2) < φ ∧ φ < Real.pi / 2) ∧ v.latitude = degrees φ ∧
      v.y = v.norm * Real.sin φ ∧ v.horizontal = v.norm * Real.cos φ := by
  have hnorm : ‖(⟨v.horizontal, v.y⟩ : ℂ)‖ = v.norm := by
    rw [norm, sqrt_real, Complex.norm_def, Complex.normSq_mk, horizontal_mul_self]
    congr 1
    ring
  have hpos : 0 < v.norm := by
    rw [← hnorm, norm_pos_iff]
    intro hzero
    exact h.ne' (congrArg Complex.re hzero)
  have hy := Complex.norm_mul_sin_arg ⟨v.horizontal, v.y⟩
  have hh := Complex.norm_mul_cos_arg ⟨v.horizontal, v.y⟩
  rw [hnorm] at hy hh
  have hφ := abs_lt.1
    (Complex.abs_arg_lt_pi_div_two_iff (z := ⟨v.horizontal, v.y⟩).2 (Or.inl h))
  exact ⟨_, hφ, latitude_of_polar hpos hφ hy.symm hh.symm, hy.symm, hh.symm⟩

section OffCap

variable (h : poleTolerance ≤ v.horizontal)
include h

lemma horizontal_pos : 0 < v.horizontal := by
  have htol : (0 : ℝ) < poleTolerance := by norm_num [poleTolerance]
  exact htol.trans_le h

/-- Off the polar cap the longitude of the place tells the direction about the polar axis. -/
lemma polar_lon_place :
    -180 < v.place.lon ∧ v.x = v.horizontal * Real.sin (radians v.place.lon) ∧
      v.z = v.horizontal * Real.cos (radians v.place.lon) := by
  obtain ⟨ψ, ⟨hlow, hhigh⟩, hlon, hx, hz⟩ := exists_polar_longitude (horizontal_pos h)
  have hplace : v.place.lon = clamp 180.0 v.longitude := by
    rw [place, if_neg (not_lt.2 h)]
  have hlow' : -180 < degrees ψ := by
    rwa [← radians_lt_radians, radians_neg, radians_half_turn, radians_degrees]
  have hhigh' : degrees ψ ≤ 180 := by
    rwa [← radians_le_radians, radians_half_turn, radians_degrees]
  have hbound : |degrees ψ| ≤ 180.0 := by
    norm_num
    exact abs_le.2 ⟨hlow'.le, hhigh'⟩
  rw [hplace, hlon, clamp_of_abs_le hbound, radians_degrees]
  exact ⟨hlow', hx, hz⟩

/-- Off the polar cap the latitude of the place tells the height. -/
lemma polar_lat_place :
    v.y = v.norm * Real.sin (radians v.place.lat) ∧
      v.horizontal = v.norm * Real.cos (radians v.place.lat) := by
  obtain ⟨φ, ⟨hlow, hhigh⟩, hlat, hy, hh⟩ := exists_polar_latitude (horizontal_pos h)
  have hplace : v.place.lat = clamp 90.0 v.latitude := by
    rw [place, if_neg (not_lt.2 h)]
  have hlow' : -90 ≤ degrees φ := by
    rw [← radians_le_radians, radians_neg, radians_quarter_turn, radians_degrees]
    exact hlow.le
  have hhigh' : degrees φ ≤ 90 := by
    rw [← radians_le_radians, radians_quarter_turn, radians_degrees]
    exact hhigh.le
  have hbound : |degrees φ| ≤ 90.0 := by
    norm_num
    exact abs_le.2 ⟨hlow', hhigh'⟩
  rw [hplace, hlat, clamp_of_abs_le hbound, radians_degrees]
  exact ⟨hy, hh⟩

/-- **Off the polar cap a vector points to its place.** -/
theorem eq_smul_toVec3_place : v = v.norm • v.place.toVec3 := by
  obtain ⟨-, hx, hz⟩ := polar_lon_place h
  obtain ⟨hy, hh⟩ := polar_lat_place h
  rw [GeoPoint.toVec3_eq]
  ext
  · rw [smul_x, ← mul_assoc, ← hh, ← hx]
  · rw [smul_y, ← hy]
  · rw [smul_z, ← mul_assoc, ← hh, ← hz]

lemma OnSphere.toVec3_place (hv : v.OnSphere) : v.place.toVec3 = v := by
  have hdir := eq_smul_toVec3_place h
  have hone : v.norm = 1 := hv
  rw [hone] at hdir
  refine Eq.trans ?_ hdir.symm
  ext <;> simp

end OffCap

end Vec3

namespace GeoPoint

variable (p : GeoPoint ℝ)

/-- The place with the antimeridian spelled 180. -/
noncomputable def spelled : GeoPoint ℝ :=
  { p with
    lon := p.spelledLon
    le_lon := by
      norm_num
      exact p.spelledLon_mem.1.le
    lon_le := by
      norm_num
      exact p.spelledLon_mem.2 }

/-- A place off the polar cap is the place of its vector. -/
lemma place_toVec3 (h : Vec3.poleTolerance ≤ p.toVec3.horizontal) :
    p.toVec3.place = p.spelled := by
  rw [p.horizontal_toVec3] at h
  obtain ⟨q, hq, hlat, hlon⟩ := p.toGeoPoint_off_pole h
  rw [Vec3.toGeoPoint_eq_place] at hq
  obtain rfl : p.toVec3.place = q := Except.ok.inj hq
  exact GeoPoint.ext hlat hlon

end GeoPoint

end GreatCircle
