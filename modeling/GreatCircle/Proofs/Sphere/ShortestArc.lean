/-
# The shortest rotation between two points of the sphere

`Orientation.between` builds its quaternion from the inner and the vector product.  Here it is
read as a turn about a unit axis square to the first point: by the angle between the points
(`Orientation.between_eq_turn`), or by half a turn where they count as opposite
(`Orientation.between_eq_half_turn`).
-/
import GreatCircle.Proofs.Sphere.Turn

namespace GreatCircle

open Scalar

namespace Vec3

/-- A vector square to `a`: one of the plane of the polar axis and the larger of the two other
coordinates. -/
noncomputable def square (a : Vec3 ℝ) : Vec3 ℝ :=
  if |a.z| < |a.x| then ⟨-a.y, a.x, 0⟩ else ⟨0, -a.z, a.y⟩

lemma square_dot (a : Vec3 ℝ) : a.square.dot a = 0 := by
  unfold square
  split <;> simp only [dot_def] <;> ring

lemma dot_square_pos {a : Vec3 ℝ} (ha : a.OnSphere) : 0 < a.square.dot a.square := by
  refine lt_of_le_of_ne (dot_self_nonneg _) fun hzero => ?_
  have hsquare := eq_zero_of_dot_self hzero.symm
  rw [onSphere_iff, dot_def] at ha
  unfold square at hsquare
  split at hsquare
  · rename_i hlt
    obtain hx : a.x = 0 := congrArg Vec3.y hsquare
    rw [hx, abs_zero] at hlt
    exact absurd hlt (not_lt.2 (abs_nonneg _))
  · rename_i hle
    obtain hz : -a.z = 0 := congrArg Vec3.y hsquare
    obtain hy : a.y = 0 := congrArg Vec3.z hsquare
    -- the first coordinate is not larger than the third, so it is zero as well
    have hx : a.x = 0 := by
      rw [neg_eq_zero.1 hz, abs_zero, not_lt] at hle
      exact abs_nonpos_iff.1 hle
    rw [hx, hy, neg_eq_zero.1 hz] at ha
    norm_num at ha

lemma exists_unit_square {a : Vec3 ℝ} (ha : a.OnSphere) :
    ∃ n : Vec3 ℝ, n.OnSphere ∧ n.dot a = 0 :=
  ⟨(a.square.norm)⁻¹ • a.square, onSphere_smul (dot_square_pos ha), by
    rw [smul_dot, square_dot, mul_zero]⟩

/-- Of two points of the sphere the vector product is the sine of their angle, on a unit axis
square to the first. -/
lemma exists_axis {a b : Vec3 ℝ} (ha : a.OnSphere) (hb : b.OnSphere) :
    ∃ n : Vec3 ℝ, n.OnSphere ∧ n.dot a = 0 ∧ a.cross b = Real.sin (a.angle b) • n := by
  have hcross : (a.cross b).dot (a.cross b) = Real.sin (a.angle b) * Real.sin (a.angle b) := by
    have h := Real.sin_sq_add_cos_sq (a.angle b)
    rw [cos_angle ha hb] at h
    rw [dot_cross_cross, onSphere_iff.1 ha, onSphere_iff.1 hb]
    linarith
  by_cases hsin : Real.sin (a.angle b) = 0
  · -- parallel points: every axis will do
    obtain ⟨n, hn, hna⟩ := exists_unit_square ha
    rw [hsin, mul_zero] at hcross
    refine ⟨n, hn, hna, ?_⟩
    rw [eq_zero_of_dot_self hcross, hsin]
    ext <;> simp
  · refine ⟨(Real.sin (a.angle b))⁻¹ • a.cross b, ?_, ?_, ?_⟩
    · rw [onSphere_iff, smul_dot, dot_smul, hcross]
      field_simp
    · rw [smul_dot, dot_comm, dot_cross_left, mul_zero]
    · ext <;> simp <;> field_simp

/-- Along the great circle through both, the second point is reached from the first after the
angle between them. -/
lemma eq_travel_angle {a b n : Vec3 ℝ} (ha : a.OnSphere) (hb : b.OnSphere)
    (hn : a.cross b = Real.sin (a.angle b) • n) :
    b = a.travel (n.cross a) (a.angle b) := by
  have hdir : Real.sin (a.angle b) • n.cross a = b + (-a.dot b) • a := by
    have haa := onSphere_iff.1 ha
    rw [dot_def] at haa
    rw [← smul_cross, ← hn]
    ext
    · simp only [cross_x, cross_y, cross_z, add_x, smul_x, dot_def]
      linear_combination b.x * haa
    · simp only [cross_x, cross_y, cross_z, add_y, smul_y, dot_def]
      linear_combination b.y * haa
    · simp only [cross_x, cross_y, cross_z, add_z, smul_z, dot_def]
      linear_combination b.z * haa
  rw [travel, cos_angle ha hb, hdir]
  ext <;> simp

end Vec3

namespace Orientation

/-- A positive multiple of a turn is normalized to the turn. -/
lemma normalized_eq_turn {q : Orientation ℝ} {n : Vec3 ℝ} (hn : n.OnSphere) {θ length : ℝ}
    (hpos : 0 < length) (hw : q.w = length * Real.cos (θ / 2))
    (haxis : q.axis = (length * Real.sin (θ / 2)) • n) : q.normalized = .ok (turn n θ) := by
  have hx : q.x = length * Real.sin (θ / 2) * n.x := congrArg Vec3.x haxis
  have hy : q.y = length * Real.sin (θ / 2) * n.y := congrArg Vec3.y haxis
  have hz : q.z = length * Real.sin (θ / 2) * n.z := congrArg Vec3.z haxis
  have hsum : q.w * q.w + q.x * q.x + q.y * q.y + q.z * q.z = length * length := by
    have hnn := Vec3.onSphere_iff.1 hn
    have htrig := Real.sin_sq_add_cos_sq (θ / 2)
    rw [Vec3.dot_def] at hnn
    rw [hw, hx, hy, hz]
    linear_combination (length ^ 2 * Real.sin (θ / 2) ^ 2) * hnn + length ^ 2 * htrig
  have hsqrt : sqrt (q.w * q.w + q.x * q.x + q.y * q.y + q.z * q.z) = length := by
    rw [hsum, sqrt_real, Real.sqrt_mul_self hpos.le]
  have hne : (length == (0.0 : ℝ)) = false := by
    norm_num
    exact hpos.ne'
  simp only [normalized]
  rw [hsqrt, hne, turn_of_onSphere hn, hw, hx, hy, hz]
  refine congrArg Except.ok ?_
  ext <;> simp <;> field_simp

/-- Between points that do not count as opposite, the rotation is the turn by their angle. -/
lemma between_eq_turn {a b : Vec3 ℝ} (ha : a.OnSphere) (hb : b.OnSphere)
    (h : 1.0e-15 ≤ 1 + a.dot b) :
    ∃ n : Vec3 ℝ, n.OnSphere ∧ n.dot a = 0 ∧ between a b = .ok (turn n (a.angle b)) ∧
      b = a.travel (n.cross a) (a.angle b) := by
  obtain ⟨n, hn, hna, hcross⟩ := Vec3.exists_axis ha hb
  refine ⟨n, hn, hna, ?_, Vec3.eq_travel_angle ha hb hcross⟩
  set θ := a.angle b with hθ
  have hr : a.dot b + 1 = 2 * Real.cos (θ / 2) * Real.cos (θ / 2) := by
    rw [← Vec3.cos_angle ha hb, ← hθ, cos_eq_half]
    ring
  have hcos : 0 < Real.cos (θ / 2) := by
    refine lt_of_le_of_ne (cos_half_nonneg (Vec3.angle_nonneg ha hb) (Vec3.angle_le_pi ha hb))
      fun hzero => ?_
    rw [← hzero, mul_zero] at hr
    norm_num at h
    linarith
  have hopp : ¬ a.dot b + (1.0 : ℝ) < oppositeTolerance := by
    norm_num [oppositeTolerance] at h ⊢
    linarith
  simp only [between]
  rw [if_neg hopp]
  -- the quaternion is the turn, times twice the cosine of half the angle
  refine normalized_eq_turn hn (by linarith : 0 < 2 * Real.cos (θ / 2)) ?_ ?_
  · rw [← hr]
    norm_num
  · change a.cross b = _
    have hsin : Real.sin θ = 2 * Real.cos (θ / 2) * Real.sin (θ / 2) := by
      rw [sin_eq_half]
      ring
    rw [hcross, hsin]

/-- From a point to one that counts as its opposite, the rotation is half a turn about an axis
square to the point. -/
lemma between_eq_half_turn {a b : Vec3 ℝ} (ha : a.OnSphere) (h : 1 + a.dot b < 1.0e-15) :
    ∃ n : Vec3 ℝ, n.OnSphere ∧ n.dot a = 0 ∧ between a b = .ok (turn n Real.pi) := by
  have hpos := Vec3.dot_square_pos ha
  have hunit := Vec3.onSphere_smul hpos
  have hnorm : 0 < a.square.norm := Real.sqrt_pos.2 hpos
  refine ⟨(a.square.norm)⁻¹ • a.square, hunit, ?_, ?_⟩
  · rw [Vec3.smul_dot, Vec3.square_dot, mul_zero]
  have hopp : a.dot b + (1.0 : ℝ) < oppositeTolerance := by
    norm_num [oppositeTolerance] at h ⊢
    linarith
  have hbranch : between a b =
      normalized ⟨0, a.square.x, a.square.y, a.square.z⟩ := by
    simp only [between]
    rw [if_pos hopp]
    unfold Vec3.square
    simp only [magnitude_real]
    split <;> norm_num
  rw [hbranch]
  refine normalized_eq_turn hunit hnorm ?_ ?_
  · rw [Real.cos_pi_div_two, mul_zero]
  · change a.square = _
    rw [Real.sin_pi_div_two]
    ext <;> simp <;> field_simp

end Orientation

end GreatCircle
