/-
# The two quaternions of a rotation

A quaternion and its opposite are one rotation.  They turn every vector to the same place and have
the same angle, and composing, turning back and `Orientation.relative` keep the sign that they
differ by: none of this asks for length one.

Interpolation has to choose between the two.  Before the end it takes the one with the smaller angle,
so from both it goes the same way (`Orientation.slerp_neg`); at the end it leaves the quaternion as
it is.  Only half a turn has no smaller angle, and then the two go opposite ways round
(`Orientation.slerp_neg_of_half_turn`).  Together: `Orientation.neg_is_same_rotation`.
-/
import GreatCircle.Proofs.Sphere.ConstantSpeed

namespace GreatCircle

open Scalar

namespace Orientation

section Signs

variable (p q : Orientation ℝ)

/-- The rotation of a vector is quadratic in the quaternion. -/
lemma rotate_neg (v : Vec3 ℝ) : (-q).rotate v = q.rotate v := by
  rw [rotate_eq, rotate_eq, neg_w, axis_neg]
  ext <;> simp <;> ring

lemma inverse_neg : (-q).inverse = -q.inverse := rfl

lemma relative_neg_left : relative (-p) q = -relative p q := by
  rw [relative, inverse_neg, compose_neg, relative]

lemma relative_neg_right : relative p (-q) = -relative p q := by
  rw [relative, neg_compose, relative]

end Signs

/-! ### Interpolation -/

variable {q : Orientation ℝ}

/-- Before the end, the way does not depend on the spelling. -/
lemma slerp_neg (hw : q.w ≠ 0) {t : ℝ} (ht : t ≠ 1) : (-q).slerp t = q.slerp t := by
  rcases lt_or_gt_of_ne hw with hneg | hpos
  · rw [slerp_of_neg hneg ht]
  · have hneg : (-q).w < 0 := by
      rw [neg_w]
      linarith
    rw [slerp_of_neg hneg ht, neg_neg]

/-- What is done of a rotation at any time does not depend on the spelling, but for the sign. -/
lemma slerp_neg_eq_or_neg (hw : q.w ≠ 0) (t : ℝ) :
    (-q).slerp t = q.slerp t ∨ (-q).slerp t = -q.slerp t := by
  by_cases ht : t = 1
  · right
    rw [ht, slerp_one, slerp_one]
  · left
    exact slerp_neg hw ht

/-- Neither spelling of half a turn has the smaller angle, so each is done its own way round. -/
lemma slerp_neg_of_half_turn (hw : q.w = 0) {t : ℝ} (ht : t ≠ 1) :
    (-q).slerp t = (q.slerp t).inverse := by
  have hend : ¬ (t == (1.0 : ℝ)) = true := by
    norm_num
    exact ht
  have hshorter : q.shorter = q := if_neg (by norm_num [hw])
  have hshorter' : (-q).shorter = -q := if_neg (by norm_num [hw])
  have hsame : (-q).w = q.w := by
    rw [neg_w, hw, neg_zero]
  have hstill : (identity : Orientation ℝ).inverse = identity := by
    ext <;> norm_num [inverse, identity]
  rw [slerp_eq_part, slerp_eq_part, if_neg hend, if_neg hend, hshorter, hshorter', part, part,
    axis_neg, Vec3.norm_neg, hsame]
  split_ifs
  · exact hstill.symm
  · exact hstill.symm
  · -- the axis is reversed, and the angle is kept
    exact Orientation.ext rfl (neg_mul _ _) (neg_mul _ _) (neg_mul _ _)

/-- **Two quaternions, one rotation.**  No operation tells a quaternion from its opposite: rotated
vectors and angles are the same, products, inverses and relative rotations differ by the sign that
the operands differ by.  Interpolated, the two rotate all vectors alike at every time, unless the
rotation is half a turn: then, until the end, each turns the other's way back. -/
theorem neg_is_same_rotation (q : Orientation ℝ) :
    (∀ v, (-q).rotate v = q.rotate v) ∧
    (-q).angle = q.angle ∧
    (∀ p, (-q).compose p = -q.compose p ∧ p.compose (-q) = -p.compose q) ∧
    (-q).inverse = -q.inverse ∧
    (∀ p, relative (-q) p = -relative q p ∧ relative p (-q) = -relative p q) ∧
    (q.w ≠ 0 → ∀ t, 0 ≤ t → t ≤ 1 →
      ∃ part part', q.interpolate t = .ok part ∧ (-q).interpolate t = .ok part' ∧
        ∀ v, part'.rotate v = part.rotate v) ∧
    (q.w = 0 → ∀ t, 0 ≤ t → t < 1 →
      ∃ part, q.interpolate t = .ok part ∧ (-q).interpolate t = .ok part.inverse) := by
  refine ⟨rotate_neg q, angle_neg q, fun p => ⟨neg_compose q p, compose_neg p q⟩, inverse_neg q,
    fun p => ⟨relative_neg_left q p, relative_neg_right p q⟩, fun hw t hlow hhigh => ?_,
    fun hw t hlow hhigh => ?_⟩
  · refine ⟨_, _, interpolate_mem q hlow hhigh, interpolate_mem (-q) hlow hhigh, fun v => ?_⟩
    rcases slerp_neg_eq_or_neg hw t with h | h
    · rw [h]
    · rw [h, rotate_neg]
  · refine ⟨_, interpolate_mem q hlow hhigh.le, ?_⟩
    rw [interpolate_mem (-q) hlow hhigh.le, slerp_neg_of_half_turn hw hhigh.ne]

/-- A rotation spelled with the larger angle and with the smaller one, halfway; and half a turn about
the first axis, where the spellings lead from the north pole to different places. -/
theorem neg_is_same_rotation_halfway :
    let q : Orientation ℝ := ⟨-3 / 5, 4 / 5, 0, 0⟩
    let p : Orientation ℝ := ⟨0, 1, 0, 0⟩
    let pole : Vec3 ℝ := ⟨0, 1, 0⟩
    (q.w ≠ 0 ∧ p.w = 0 ∧ (0 : ℝ) ≤ 1 / 2 ∧ (1 / 2 : ℝ) ≤ 1 ∧ (1 / 2 : ℝ) < 1) ∧
    (∃ part part', q.interpolate (1 / 2) = .ok part ∧ (-q).interpolate (1 / 2) = .ok part' ∧
      part'.rotate pole = part.rotate pole) ∧
    ∃ part, p.interpolate (1 / 2) = .ok part ∧ (-p).interpolate (1 / 2) = .ok part.inverse ∧
      part.rotate pole = ⟨0, 0, 1⟩ ∧ part.inverse.rotate pole = ⟨0, 0, -1⟩ := by
  intro q p pole
  have hw : q.w ≠ 0 := by norm_num [q]
  have hlow : (0 : ℝ) ≤ 1 / 2 := by norm_num
  have hhigh : (1 / 2 : ℝ) < 1 := by norm_num
  obtain ⟨-, -, -, -, -, halike, -⟩ := neg_is_same_rotation q
  obtain ⟨-, -, -, -, -, -, hback⟩ := neg_is_same_rotation p
  obtain ⟨part, part', hpart, hpart', hrotate⟩ := halike hw (1 / 2) hlow hhigh.le
  obtain ⟨quarter, hquarter, hinverse⟩ := hback rfl (1 / 2) hlow hhigh
  have hn : (eastWestAxis : Vec3 ℝ).OnSphere := onSphere_eastWestAxis
  have hturn : p = turn eastWestAxis Real.pi := by
    rw [turn_of_onSphere hn, Real.cos_pi_div_two, Real.sin_pi_div_two]
    ext <;> norm_num [p, eastWestAxis]
  obtain rfl : turn eastWestAxis (Real.pi / 2) = quarter := by
    rw [interpolate_mem p hlow hhigh.le, hturn, slerp_turn hn Real.pi_pos.le le_rfl] at hquarter
    have htime : 1 / 2 * Real.pi = Real.pi / 2 := by ring
    rw [← htime]
    exact Except.ok.inj hquarter
  have hperp : eastWestAxis.dot pole = 0 := by norm_num [eastWestAxis, pole, Vec3.dot_def]
  have hcross : eastWestAxis.cross pole = ⟨0, 0, 1⟩ := by
    ext <;> norm_num [eastWestAxis, pole]
  have hreverse : (turn (eastWestAxis : Vec3 ℝ) (Real.pi / 2)).inverse =
      turn eastWestAxis (-(Real.pi / 2)) := by
    rw [turn_of_onSphere hn, turn_of_onSphere hn, neg_div, Real.cos_neg, Real.sin_neg]
    ext <;> simp [inverse]
  refine ⟨⟨hw, rfl, hlow, hhigh.le, hhigh⟩, ⟨part, part', hpart, hpart', hrotate pole⟩, _,
    hquarter, hinverse, ?_, ?_⟩
  · rw [rotate_turn hn hperp, hcross, Vec3.travel, Real.cos_pi_div_two, Real.sin_pi_div_two]
    ext <;> simp
  · rw [hreverse, rotate_turn hn hperp, hcross, Vec3.travel, Real.cos_neg, Real.sin_neg,
      Real.cos_pi_div_two, Real.sin_pi_div_two]
    ext <;> simp

end Orientation

end GreatCircle
