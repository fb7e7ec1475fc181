/-
# Longitudes along an arc

Along an arc of at most half a turn that keeps off the poles, the longitude goes one way: to the
east, to the west, or, on a meridian, not at all but for the step over a pole.  `Vec3.turned` is how
far it has turned since the start, from 0 to 180 degrees.  It never decreases along the arc
(`Vec3.turned_le_turned`), and the longitude is that of the start plus or minus it, but
for whole turns (`Vec3.exists_lon_eq_add`, `Vec3.exists_lon_eq_sub`).
-/
import Mathlib.Analysis.SpecialFunctions.Trigonometric.Angle
import GreatCircle.Proofs.Sphere.Arc
import GreatCircle.Proofs.Sphere.VectorPlace

namespace GreatCircle

open Scalar

namespace Vec3

/-! ### The plane of an arc -/

/-- The area between two points of a great circle is the sine of the angle between them. -/
lemma cross_travel_travel (a e : Vec3 ℝ) (φ ψ : ℝ) :
    (a.travel e φ).cross (a.travel e ψ) = Real.sin (ψ - φ) • a.cross e := by
  rw [Real.sin_sub]
  ext <;> simp [travel] <;> ring

/-- A point on the way is a sum of multiples of the two ends. -/
lemma sin_smul_travel (a e : Vec3 ℝ) (φ ψ : ℝ) :
    Real.sin ψ • a.travel e φ = Real.sin (ψ - φ) • a + Real.sin φ • a.travel e ψ := by
  rw [Real.sin_sub]
  ext <;> simp [travel] <;> ring

/-! ### How far the longitude has turned -/

/-- The difference of two longitudes in degrees, taken the short way round. -/
noncomputable def turned (a v : Vec3 ℝ) : ℝ :=
  degrees (Real.arccos (Real.cos (radians v.place.lon - radians a.place.lon)))

lemma radians_turned (a v : Vec3 ℝ) :
    radians (a.turned v) = Real.arccos (Real.cos (radians v.place.lon - radians a.place.lon)) :=
  radians_degrees _

lemma turned_mem (a v : Vec3 ℝ) : 0 ≤ a.turned v ∧ a.turned v ≤ 180 := by
  constructor
  · rw [← radians_le_radians, radians_zero, radians_turned]
    exact Real.arccos_nonneg _
  · rw [← radians_le_radians, radians_half_turn, radians_turned]
    exact Real.arccos_le_pi _

/-- An angle with a sine that is not negative is the one between 0 and half a turn, but for whole
turns. -/
lemma exists_eq_arccos_cos {x : ℝ} (h : 0 ≤ Real.sin x) :
    ∃ k : ℤ, x = Real.arccos (Real.cos x) + 2 * Real.pi * k := by
  have hcos : Real.cos x = Real.cos (Real.arccos (Real.cos x)) :=
    (Real.cos_arccos (Real.neg_one_le_cos x) (Real.cos_le_one x)).symm
  have hsin : Real.sin x = Real.sin (Real.arccos (Real.cos x)) := by
    rw [Real.sin_arccos, ← Real.abs_sin_eq_sqrt_one_sub_cos_sq, abs_of_nonneg h]
  obtain ⟨k, hk⟩ := Real.Angle.angle_eq_iff_two_pi_dvd_sub.1 (Real.Angle.cos_sin_inj hcos hsin)
  exact ⟨k, by linarith⟩

section OffCap

variable {a v w : Vec3 ℝ} (ha : poleTolerance ≤ a.horizontal) (hv : poleTolerance ≤ v.horizontal)
include ha hv

/-- Seen from above, the area between two vectors is that of the difference of longitudes. -/
lemma cross_y_eq : (a.cross v).y =
    a.horizontal * v.horizontal * Real.sin (radians v.place.lon - radians a.place.lon) := by
  obtain ⟨-, hax, haz⟩ := polar_lon_place ha
  obtain ⟨-, hvx, hvz⟩ := polar_lon_place hv
  rw [cross_y, hax, haz, hvx, hvz, Real.sin_sub]
  ring

lemma horizontal_dot_eq : a.z * v.z + a.x * v.x =
    a.horizontal * v.horizontal * Real.cos (radians v.place.lon - radians a.place.lon) := by
  obtain ⟨-, hax, haz⟩ := polar_lon_place ha
  obtain ⟨-, hvx, hvz⟩ := polar_lon_place hv
  rw [hax, haz, hvx, hvz, Real.cos_sub]
  ring

/-- To the east the longitude has increased by what it has turned, but for whole turns. -/
lemma exists_lon_eq_add (h : 0 ≤ (a.cross v).y) :
    ∃ k : ℤ, v.place.lon = a.place.lon + a.turned v + 360 * k := by
  rw [cross_y_eq ha hv] at h
  have hpos := mul_pos (horizontal_pos ha) (horizontal_pos hv)
  obtain ⟨k, hk⟩ := exists_eq_arccos_cos (nonneg_of_mul_nonneg_right h hpos)
  refine ⟨k, ?_⟩
  rw [← radians_inj, radians_add, radians_add, radians_turned, radians_turns]
  linarith

/-- To the west the longitude has decreased by what it has turned, but for whole turns. -/
lemma exists_lon_eq_sub (h : (a.cross v).y ≤ 0) :
    ∃ k : ℤ, v.place.lon = a.place.lon - a.turned v + 360 * k := by
  rw [cross_y_eq ha hv, ← neg_nonneg, ← mul_neg, ← Real.sin_neg] at h
  have hpos := mul_pos (horizontal_pos ha) (horizontal_pos hv)
  obtain ⟨k, hk⟩ := exists_eq_arccos_cos (nonneg_of_mul_nonneg_right h hpos)
  rw [Real.cos_neg] at hk
  refine ⟨-k, ?_⟩
  rw [← radians_inj, radians_add, radians_sub, radians_turned, radians_turns]
  push_cast
  linarith

end OffCap

/-! ### It turns one way only -/

/-- A direction made of two others lies between them, so it has turned less than the second. -/
lemma cos_le_cos_of_between {p q s t : ℝ} (hs : 0 ≤ s) (ht : 0 ≤ t)
    (hcos : Real.cos p = s + t * Real.cos q) (hsin : Real.sin p = t * Real.sin q) :
    Real.cos q ≤ Real.cos p := by
  have hp := Real.sin_sq_add_cos_sq p
  have hq := Real.sin_sq_add_cos_sq q
  have hlow := Real.neg_one_le_cos q
  have hhigh := Real.cos_le_one q
  rw [hsin, hcos] at hp
  -- the two parts and the whole, which is 1, are the sides of a triangle
  have hsides : s ^ 2 + t ^ 2 + 2 * (s * t) * Real.cos q = 1 := by
    linear_combination hp - t ^ 2 * hq
  have hst := mul_nonneg hs ht
  have hsum : 1 ≤ s + t := by
    refine (one_le_sq_iff₀ (add_nonneg hs ht)).1 ?_
    nlinarith [mul_nonneg hst (sub_nonneg.2 hhigh)]
  have hdiff : |t - s| ≤ 1 := by
    refine (sq_le_one_iff_abs_le_one _).1 ?_
    nlinarith [mul_nonneg hst (by linarith : 0 ≤ Real.cos q + 1)]
  rw [hcos]
  rcases le_total t 1 with htone | htone
  · have := mul_le_mul_of_nonneg_left hhigh (sub_nonneg.2 htone)
    linarith
  · have := mul_le_mul_of_nonneg_left hlow (sub_nonneg.2 htone)
    linarith [(abs_le.1 hdiff).2]

section Arc

variable {a e : Vec3 ℝ} {φ ψ : ℝ} (ha : poleTolerance ≤ a.horizontal)
include ha

/-- At the far end of half a turn the longitude has turned half way round. -/
lemma turned_travel_pi : a.turned (a.travel e Real.pi) = 180 := by
  have hback : (a.travel e Real.pi).horizontal = a.horizontal := by
    simp [horizontal]
  have hw : poleTolerance ≤ (a.travel e Real.pi).horizontal := by rwa [hback]
  have hdot := horizontal_dot_eq ha hw
  have hself := a.horizontal_mul_self
  have hpos := horizontal_pos ha
  rw [hback, hself, travel_pi, neg_z, neg_x] at hdot
  have hcos : Real.cos (radians (a.travel e Real.pi).place.lon - radians a.place.lon) = -1 := by
    rw [travel_pi]
    have hne : a.z * a.z + a.x * a.x ≠ 0 := hself ▸ (mul_pos hpos hpos).ne'
    refine mul_left_cancel₀ hne ?_
    linarith
  rw [← radians_inj, radians_turned, radians_half_turn, hcos, Real.arccos_neg_one]

/-- **The longitude turns one way.**  Along an arc of at most half a turn the longitude has turned
the further the later. -/
theorem turned_le_turned (hφ : 0 ≤ φ) (hφψ : φ ≤ ψ) (hψ : ψ ≤ Real.pi)
    (hv : poleTolerance ≤ (a.travel e φ).horizontal)
    (hw : poleTolerance ≤ (a.travel e ψ).horizontal) :
    a.turned (a.travel e φ) ≤ a.turned (a.travel e ψ) := by
  rcases hψ.eq_or_lt with rfl | hlt
  · rw [turned_travel_pi ha]
    exact (a.turned_mem _).2
  rcases hφψ.eq_or_lt with rfl | hφψ
  · exact le_rfl
  have hsin : 0 < Real.sin ψ := Real.sin_pos_of_pos_of_lt_pi (by linarith) hlt
  have hsinφ : 0 ≤ Real.sin φ := Real.sin_nonneg_of_nonneg_of_le_pi hφ (by linarith)
  have hsinψφ : 0 ≤ Real.sin (ψ - φ) :=
    Real.sin_nonneg_of_nonneg_of_le_pi (by linarith) (by linarith)
  have hapos := horizontal_pos ha
  have hvpos := horizontal_pos hv
  have hwpos := horizontal_pos hw
  -- the point at `φ` is made of the start and the point at `ψ`; seen from above this is so for
  -- the directions
  have hpart := sin_smul_travel a e φ ψ
  have hx := congrArg Vec3.x hpart
  have hz := congrArg Vec3.z hpart
  simp only [smul_x, add_x, smul_z, add_z] at hx hz
  have hcross := cross_y_eq ha hv
  have hcross' := cross_y_eq ha hw
  have hdot := horizontal_dot_eq ha hv
  have hdot' := horizontal_dot_eq ha hw
  rw [cross_y] at hcross hcross'
  rw [← radians_le_radians, radians_turned, radians_turned]
  refine Real.antitone_arccos (cos_le_cos_of_between
    (s := Real.sin (ψ - φ) * a.horizontal / (Real.sin ψ * (a.travel e φ).horizontal))
    (t := Real.sin φ * (a.travel e ψ).horizontal / (Real.sin ψ * (a.travel e φ).horizontal))
    (by positivity) (by positivity) ?_ ?_)
  · field_simp
    refine mul_left_cancel₀ hapos.ne' ?_
    linear_combination (-Real.sin ψ) * hdot + a.z * hz + a.x * hx
      + Real.sin φ * hdot' - Real.sin (ψ - φ) * a.horizontal_mul_self
  · field_simp
    refine mul_left_cancel₀ hapos.ne' ?_
    linear_combination (-Real.sin ψ) * hcross + a.z * hx - a.x * hz + Real.sin φ * hcross'

end Arc

end Vec3

end GreatCircle
