/-
# What the shortest rotation does

`Orientation.between` turns one point of the sphere onto another about an axis square to both, by
the angle between them; onto a point that counts as opposite it makes half a turn instead, which
ends at the exact opposite (`Orientation.between_shortest`).  The two are told apart by
`oppositeTolerance`, so the exact opposite is never far from the point that was asked for.
-/
import Mathlib.Analysis.SpecialFunctions.Trigonometric.Bounds
import GreatCircle.Proofs.Sphere.ShortestArc
import GreatCircle.Proofs.Sphere.VersorChain

namespace GreatCircle

open Scalar

namespace Vec3

/-- The squared distance between the opposite of one point of the sphere and another. -/
lemma norm_sq_neg_sub {a b : Vec3 ℝ} (ha : a.OnSphere) (hb : b.OnSphere) :
    (-a + -b).norm ^ 2 = 2 * (1 + a.dot b) := by
  have haa := onSphere_iff.1 ha
  have hbb := onSphere_iff.1 hb
  rw [dot_def] at haa hbb
  rw [norm_eq_sqrt, Real.sq_sqrt (dot_self_nonneg _)]
  simp only [dot_def, add_x, add_y, add_z, neg_x, neg_y, neg_z]
  linear_combination haa + hbb

@[simp] lemma norm_add_neg_self (v : Vec3 ℝ) : (v + -v).norm = 0 := by
  simp [norm]

end Vec3

namespace Orientation

variable {a b : Vec3 ℝ} (ha : a.OnSphere)
include ha

/-- Between points that do not count as opposite. -/
lemma between_of_not_opposite (hb : b.OnSphere) (h : 1.0e-15 ≤ 1 + a.dot b) :
    ∃ q, between a b = .ok q ∧ q.rotate a = b ∧ 0 < q.w ∧
      q.axis.dot a = 0 ∧ q.axis.dot b = 0 ∧ q.angle = a.angle b := by
  obtain ⟨n, hn, hna, hbetween, hend⟩ := between_eq_turn ha hb h
  have hθ := Vec3.angle_nonneg ha hb
  have hθπ := Vec3.angle_le_pi ha hb
  have hrotate : (turn n (a.angle b)).rotate a = b := by
    rw [rotate_turn hn hna, ← hend]
  -- the axis is square to `a`, and stays where it is while `a` goes to `b`
  have hnb : n.dot b = 0 := by
    rw [hend, Vec3.travel, Vec3.dot_add, Vec3.dot_smul, Vec3.dot_smul, hna, Vec3.dot_cross_left]
    ring
  refine ⟨_, hbetween, hrotate, ?_, ?_, ?_, angle_turn hn hθ hθπ⟩
  · rw [turn_w hn]
    refine lt_of_le_of_ne (cos_half_nonneg hθ hθπ) fun hzero => ?_
    have hcos := Vec3.cos_angle ha hb
    rw [cos_eq_half, ← hzero] at hcos
    norm_num at h
    linarith
  · rw [axis_turn hn, Vec3.smul_dot, hna, mul_zero]
  · rw [axis_turn hn, Vec3.smul_dot, hnb, mul_zero]

/-- From a point to one that counts as its opposite. -/
lemma between_of_opposite (h : 1 + a.dot b < 1.0e-15) :
    ∃ q, between a b = .ok q ∧ q.rotate a = -a ∧ q.w = 0 ∧ q.angle = Real.pi ∧
      q.axis.OnSphere ∧ q.axis.dot a = 0 := by
  obtain ⟨n, hn, hna, hbetween⟩ := between_eq_half_turn ha h
  have haxis : (turn n Real.pi).axis = n := by
    rw [axis_turn hn, Real.sin_pi_div_two]
    ext <;> simp
  refine ⟨_, hbetween, ?_, ?_, angle_turn hn Real.pi_pos.le le_rfl, ?_, ?_⟩
  · rw [rotate_turn hn hna, Vec3.travel_pi]
  · rw [turn_w hn, Real.cos_pi_div_two]
  · rw [haxis]
    exact hn
  · rw [haxis, hna]

lemma between_self : between a a = .ok identity := by
  have hself := Vec3.onSphere_iff.1 ha
  obtain ⟨n, hn, -, hbetween, -⟩ := between_eq_turn ha ha (by rw [hself]; norm_num)
  have hangle : a.angle a = 0 :=
    Vec3.angle_eq ha ha le_rfl Real.pi_pos.le (by rw [hself, Real.cos_zero])
  rw [hbetween, hangle, turn_zero hn]

/-- **The shortest rotation.**  Between points of the sphere there is always a versor.  It turns the
first point onto the second, about an axis square to both and by the angle between them; if the two
count as opposite, it makes half a turn about an axis square to the first point, which it turns onto
its exact opposite.  Either way it misses the second point by next to nothing, and from a point to
itself it does not turn at all. -/
theorem between_shortest (hb : b.OnSphere) :
    ∃ q, between a b = .ok q ∧ q.IsVersor ∧
      (1.0e-15 ≤ 1 + a.dot b →
        q.rotate a = b ∧ 0 < q.w ∧ q.axis.dot a = 0 ∧ q.axis.dot b = 0 ∧
          q.angle = a.angle b) ∧
      (1 + a.dot b < 1.0e-15 →
        q.rotate a = -a ∧ q.w = 0 ∧ q.angle = Real.pi ∧ q.axis.OnSphere ∧ q.axis.dot a = 0) ∧
      (q.rotate a + -b).norm ^ 2 ≤ 2.0e-15 ∧
      (a = b → q = identity) := by
  obtain ⟨q, hq, hversor, -⟩ := exists_between a b
  have hsame : a = b → q = identity := by
    rintro rfl
    rw [between_self ha] at hq
    exact (Except.ok.inj hq).symm
  rcases le_or_gt 1.0e-15 (1 + a.dot b) with hregular | hopposite
  · obtain ⟨p, hp, hrotate, hrest⟩ := between_of_not_opposite ha hb hregular
    obtain rfl : p = q := Except.ok.inj (hp.symm.trans hq)
    refine ⟨p, hq, hversor, fun _ => ⟨hrotate, hrest⟩,
      fun h => absurd hregular (not_le.2 h), ?_, hsame⟩
    rw [hrotate, Vec3.norm_add_neg_self]
    norm_num
  · obtain ⟨p, hp, hrotate, hrest⟩ := between_of_opposite ha hopposite
    obtain rfl : p = q := Except.ok.inj (hp.symm.trans hq)
    refine ⟨p, hq, hversor, fun h => absurd h (not_le.2 hopposite),
      fun _ => ⟨hrotate, hrest⟩, ?_, hsame⟩
    rw [hrotate, Vec3.norm_sq_neg_sub ha hb]
    norm_num at hopposite ⊢
    linarith

omit ha

/-- Two points that count as opposite, though they are not quite: the rotation makes half a turn and
ends beside the second point. -/
theorem between_shortest_nearly_opposite :
    let a : Vec3 ℝ := ⟨0, 0, 1⟩
    let b : Vec3 ℝ := ⟨Real.sin 1e-8, 0, -Real.cos 1e-8⟩
    a.OnSphere ∧ b.OnSphere ∧ 1 + a.dot b < 1.0e-15 ∧
      ∃ q, between a b = .ok q ∧ q.rotate a = ⟨0, 0, -1⟩ ∧ q.angle = Real.pi ∧
        (q.rotate a + -b).norm ^ 2 ≤ 2.0e-15 := by
  intro a b
  have ha : a.OnSphere := by
    rw [Vec3.onSphere_iff]
    norm_num [a, Vec3.dot_def]
  have hb : b.OnSphere := by
    rw [Vec3.onSphere_iff]
    simp only [b, Vec3.dot_def]
    linear_combination Real.sin_sq_add_cos_sq 1e-8
  have hopposite : 1 + a.dot b < 1.0e-15 := by
    have hcos := Real.one_sub_sq_div_two_le_cos (x := 1e-8)
    have hdot : a.dot b = -Real.cos 1e-8 := by
      simp [a, b, Vec3.dot_def]
    rw [hdot]
    norm_num at hcos ⊢
    linarith
  obtain ⟨q, hq, -, -, hhalf, hnear, -⟩ := between_shortest ha hb
  obtain ⟨hrotate, -, hangle, -⟩ := hhalf hopposite
  refine ⟨ha, hb, hopposite, q, hq, ?_, hangle, hnear⟩
  rw [hrotate]
  ext <;> simp [a]

end Orientation

end GreatCircle
