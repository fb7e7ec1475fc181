/-
# Turns about a unit axis

About an axis of length one, a turn by the angle `θ` carries a point square to the axis along a
great circle (`Orientation.rotate_turn`).  The part of the turn that is done at the time `t` is
the turn by `t * θ` (`Orientation.slerp_turn`): this is what makes the speed constant.  Angles of
up to half a turn can be read off again (`Orientation.angle_turn`), and turns about one axis add
their angles (`Orientation.compose_turn`).
-/
import GreatCircle.Proofs.Sphere.Arc
import GreatCircle.Sphere.Orientation

namespace GreatCircle

open Scalar

attribute [ext] Orientation

namespace Orientation

section Real

variable {n : Vec3 ℝ}

lemma turn_of_onSphere (hn : n.OnSphere) (θ : ℝ) :
    turn n θ = ⟨Real.cos (θ / 2), Real.sin (θ / 2) * n.x, Real.sin (θ / 2) * n.y,
      Real.sin (θ / 2) * n.z⟩ := by
  have hnorm : n.norm = 1 := hn
  ext <;> norm_num [turn, hnorm, mul_comm]

lemma turn_w (hn : n.OnSphere) (θ : ℝ) : (turn n θ).w = Real.cos (θ / 2) := by
  rw [turn_of_onSphere hn]

lemma axis_turn (hn : n.OnSphere) (θ : ℝ) : (turn n θ).axis = Real.sin (θ / 2) • n := by
  rw [turn_of_onSphere hn]
  rfl

lemma turn_zero (hn : n.OnSphere) : turn n 0 = identity := by
  rw [turn_of_onSphere hn]
  ext <;> norm_num [identity]

/-- The rotation of a vector, in terms of the products. -/
lemma rotate_eq (q : Orientation ℝ) (v : Vec3 ℝ) :
    q.rotate v =
      v + (2 * q.w) • q.axis.cross v + (2 : ℝ) • q.axis.cross (q.axis.cross v) := by
  ext <;> norm_num [rotate, axis] <;> ring

/-- A turn carries a point square to its axis along a great circle. -/
lemma rotate_turn (hn : n.OnSphere) {v : Vec3 ℝ} (hv : n.dot v = 0) (θ : ℝ) :
    (turn n θ).rotate v = v.travel (n.cross v) θ := by
  have hcos : Real.cos θ = 1 - 2 * Real.sin (θ / 2) ^ 2 := by
    rw [cos_eq_half, Real.cos_sq']
    ring
  rw [rotate_eq, turn_w hn, axis_turn hn, Vec3.smul_cross, Vec3.smul_cross, Vec3.cross_smul,
    Vec3.cross_cross_of_perp hv, Vec3.onSphere_iff.1 hn, Vec3.travel, hcos, sin_eq_half θ]
  ext <;> simp <;> ring

/-- The length of the imaginary part is the sine of half the angle. -/
lemma norm_axis_turn (hn : n.OnSphere) {θ : ℝ} (hθ : 0 ≤ θ) (hθπ : θ ≤ Real.pi) :
    (turn n θ).axis.norm = Real.sin (θ / 2) := by
  rw [axis_turn hn, Vec3.norm_eq_sqrt, Vec3.smul_dot, Vec3.dot_smul, Vec3.onSphere_iff.1 hn,
    mul_one, Real.sqrt_mul_self (sin_half_nonneg hθ hθπ)]

/-- Half the angle is told by the length of the imaginary part and by the real part. -/
lemma atan2_turn (hn : n.OnSphere) {θ : ℝ} (hθ : 0 ≤ θ) (hθπ : θ ≤ Real.pi) :
    atan2 (turn n θ).axis.norm (turn n θ).w = θ / 2 := by
  have hpolar := atan2_mul_sin_cos one_pos (θ := θ / 2)
    ⟨by linarith [Real.pi_pos], by linarith [Real.pi_pos]⟩
  rw [one_mul, one_mul] at hpolar
  rw [norm_axis_turn hn hθ hθπ, turn_w hn, hpolar]

lemma angle_turn (hn : n.OnSphere) {θ : ℝ} (hθ : 0 ≤ θ) (hθπ : θ ≤ Real.pi) :
    (turn n θ).angle = θ := by
  have hw : |(turn n θ).w| = (turn n θ).w := by
    rw [turn_w hn, abs_of_nonneg (cos_half_nonneg hθ hθπ)]
  rw [angle, magnitude_real, hw, atan2_turn hn hθ hθπ]
  norm_num

/-- The two quaternions of a rotation have the same angle. -/
lemma angle_neg (q : Orientation ℝ) : (-q).angle = q.angle := by
  rw [angle, angle, axis_neg, Vec3.norm_neg, neg_w, magnitude_real, magnitude_real, abs_neg]

/-- Turns about one axis add up. -/
lemma compose_turn (hn : n.OnSphere) (θ φ : ℝ) :
    (turn n θ).compose (turn n φ) = turn n (θ + φ) := by
  have hnn := Vec3.onSphere_iff.1 hn
  rw [Vec3.dot_def] at hnn
  have hcos := Real.cos_add (θ / 2) (φ / 2)
  have hsin := Real.sin_add (θ / 2) (φ / 2)
  rw [turn_of_onSphere hn, turn_of_onSphere hn, turn_of_onSphere hn, add_div, hcos, hsin]
  ext <;> simp only [compose]
  · linear_combination (-(Real.sin (θ / 2) * Real.sin (φ / 2))) * hnn
  · ring
  · ring
  · ring

/-- The part of a rotation that is spelled with the smaller angle. -/
lemma slerp_of_nonneg {q : Orientation ℝ} (hw : 0 ≤ q.w) (t : ℝ) :
    q.slerp t =
      if t = 0 then identity
      else if t = 1 then q
      else if q.axis.norm = 0 then identity
      else ⟨Real.cos (t * atan2 q.axis.norm q.w),
        q.x * (Real.sin (t * atan2 q.axis.norm q.w) / q.axis.norm),
        q.y * (Real.sin (t * atan2 q.axis.norm q.w) / q.axis.norm),
        q.z * (Real.sin (t * atan2 q.axis.norm q.w) / q.axis.norm)⟩ := by
  have hneg : ¬ q.w < 0 := not_lt.2 hw
  norm_num [slerp, hneg]

/-- **Constant speed.**  At the time `t` a turn of at most half a turn has gone the fraction `t`
of its angle. -/
lemma slerp_turn (hn : n.OnSphere) {θ : ℝ} (hθ : 0 ≤ θ) (hθπ : θ ≤ Real.pi) (t : ℝ) :
    (turn n θ).slerp t = turn n (t * θ) := by
  have hcos : 0 ≤ (turn n θ).w := by
    rw [turn_w hn]
    exact cos_half_nonneg hθ hθπ
  have hnorm := norm_axis_turn hn hθ hθπ
  rw [slerp_of_nonneg hcos, hnorm]
  split_ifs with hzero hone hsin
  · rw [hzero, zero_mul, turn_zero hn]
  · rw [hone, one_mul]
  · -- no turn at all
    obtain rfl : θ = 0 := by
      by_contra hne
      have hpos : 0 < θ := lt_of_le_of_ne hθ (Ne.symm hne)
      have := Real.sin_pos_of_pos_of_lt_pi (x := θ / 2) (by linarith) (by linarith)
      linarith
    rw [mul_zero, turn_zero hn]
  · have hhalf := atan2_turn hn hθ hθπ
    rw [hnorm] at hhalf
    have htime : t * (θ / 2) = t * θ / 2 := by ring
    rw [hhalf, htime, turn_of_onSphere hn θ, turn_of_onSphere hn (t * θ)]
    ext <;> simp <;> field_simp

end Real

end Orientation

end GreatCircle
