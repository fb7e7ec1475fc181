/-
# Interpolation at constant speed

Every versor with a real part that is not negative is a turn by at most half a turn
(`Orientation.IsVersor.exists_eq_turn`).  So what is done of a versor after the fraction `t` of the
time is the turn by `t` times its angle, up to the sign: the quaternion with the smaller angle is
taken inside the interval, and the versor is left as it is at the end
(`Orientation.IsVersor.exists_slerp_eq`).  Parts that follow each other add up
(`Orientation.interpolate_add`).
-/
import GreatCircle.Proofs.Sphere.VersorChain

namespace GreatCircle

open Scalar

namespace Orientation

section Ends

variable (q : Orientation ℝ)

lemma slerp_zero : q.slerp 0 = identity := by
  norm_num [slerp]

lemma slerp_one : q.slerp 1 = q := by
  norm_num [slerp]

/-- At every time from start to end there is an answer. -/
lemma interpolate_mem {t : ℝ} (hlow : 0 ≤ t) (hhigh : t ≤ 1) :
    q.interpolate t = .ok (q.slerp t) := by
  refine interpolate_eq_ok ?_
  norm_num
  exact ⟨hlow, hhigh⟩

end Ends

namespace IsVersor

variable {q : Orientation ℝ}

/-- A versor whose real part is not negative is a turn by at most half a turn. -/
lemma exists_eq_turn (hq : q.IsVersor) (hw : 0 ≤ q.w) :
    ∃ n θ, n.OnSphere ∧ 0 ≤ θ ∧ θ ≤ Real.pi ∧ q = turn n θ := by
  have haxis : q.axis.dot q.axis = 1 - q.w ^ 2 := by
    rw [IsVersor] at hq
    rw [Vec3.dot_def]
    change q.x * q.x + q.y * q.y + q.z * q.z = _
    linarith
  have hle : q.w ≤ 1 := by
    have hnonneg := q.axis.dot_self_nonneg
    nlinarith
  -- half the angle is the arc cosine of the real part, and its sine the length of the axis
  have hcos : Real.cos (Real.arccos q.w) = q.w := Real.cos_arccos (by linarith) hle
  have hsin : Real.sin (Real.arccos q.w) = q.axis.norm := by
    rw [Real.sin_arccos, Vec3.norm_eq_sqrt, haxis]
  have hhalf : 2 * Real.arccos q.w / 2 = Real.arccos q.w := by ring
  have hlow : 0 ≤ 2 * Real.arccos q.w := by linarith [Real.arccos_nonneg q.w]
  have hhigh : 2 * Real.arccos q.w ≤ Real.pi := by linarith [Real.arccos_le_pi_div_two.2 hw]
  rcases q.axis.dot_self_nonneg.eq_or_lt with hzero | hpos
  · -- no axis: the versor is no rotation, and any axis will do
    have hnone := Vec3.eq_zero_of_dot_self hzero.symm
    have hnorm : q.axis.norm = 0 := by
      rw [Vec3.norm_eq_sqrt, ← hzero, Real.sqrt_zero]
    refine ⟨polarAxis, _, onSphere_polarAxis, hlow, hhigh, ?_⟩
    rw [turn_of_onSphere onSphere_polarAxis, hhalf, hcos, hsin, hnorm]
    simp only [zero_mul]
    exact Orientation.ext rfl (congrArg Vec3.x hnone) (congrArg Vec3.y hnone)
      (congrArg Vec3.z hnone)
  · have hunit := Vec3.onSphere_smul hpos
    have hnorm : q.axis.norm ≠ 0 := (Real.sqrt_pos.2 hpos).ne'
    refine ⟨_, _, hunit, hlow, hhigh, ?_⟩
    rw [turn_of_onSphere hunit, hhalf, hcos, hsin]
    ext
    · rfl
    · exact (mul_inv_cancel_left₀ hnorm q.x).symm
    · exact (mul_inv_cancel_left₀ hnorm q.y).symm
    · exact (mul_inv_cancel_left₀ hnorm q.z).symm

end IsVersor

/-- Before the end, a rotation that is spelled with the larger angle is done the short way. -/
lemma slerp_of_neg {q : Orientation ℝ} (hw : q.w < 0) {t : ℝ} (ht : t ≠ 1) :
    q.slerp t = (-q).slerp t := by
  have hpos : ¬ -q.w < 0 := by linarith
  have hend : ¬ (t == (1.0 : ℝ)) = true := by
    norm_num
    exact ht
  have hshort : q.shorter = -q := if_pos (by norm_num; exact hw)
  have hsame : (-q).shorter = -q := if_neg (by norm_num; linarith)
  rw [slerp_eq_part, slerp_eq_part, if_neg hend, if_neg hend, hshort, hsame]

/-- **The parts of a versor.**  What is done of it after the fraction `t` of the time is the turn by
`t` times its angle, or the opposite quaternion. -/
lemma IsVersor.exists_slerp_eq {q : Orientation ℝ} (hq : q.IsVersor) :
    0 ≤ q.angle ∧ q.angle ≤ Real.pi ∧ ∃ n : Vec3 ℝ, n.OnSphere ∧
      (∀ t, q.slerp t = turn n (t * q.angle) ∨ q.slerp t = -turn n (t * q.angle)) ∧
      (0 ≤ q.w → ∀ t, q.slerp t = turn n (t * q.angle)) := by
  rcases le_or_gt 0 q.w with hw | hw
  · obtain ⟨n, θ, hn, hθ, hθπ, rfl⟩ := hq.exists_eq_turn hw
    rw [angle_turn hn hθ hθπ]
    have hslerp (t : ℝ) : (turn n θ).slerp t = turn n (t * θ) := slerp_turn hn hθ hθπ t
    exact ⟨hθ, hθπ, n, hn, fun t => Or.inl (hslerp t), fun _ => hslerp⟩
  · have hneg : 0 ≤ (-q).w := by
      rw [neg_w]
      linarith
    obtain ⟨n, θ, hn, hθ, hθπ, hturn⟩ := hq.neg.exists_eq_turn hneg
    rw [← angle_neg, hturn, angle_turn hn hθ hθπ]
    refine ⟨hθ, hθπ, n, hn, fun t => ?_, fun h => absurd hw (not_lt.2 h)⟩
    by_cases ht : t = 1
    · right
      rw [ht, slerp_one, one_mul, ← hturn, neg_neg]
    · left
      rw [slerp_of_neg hw ht, hturn, slerp_turn hn hθ hθπ]

/-- **Constant speed.**  A versor is interpolated from no rotation to itself, by turns whose angles
grow with the time.  What is done in two spans of time, one after the other, comes to what is done
in both together, up to the sign of the quaternion; the sign is right as well if the real part of
the versor is not negative. -/
theorem interpolate_add {q : Orientation ℝ} (hq : q.IsVersor) {s t : ℝ} (hs : 0 ≤ s) (ht : 0 ≤ t)
    (hst : s + t ≤ 1) :
    q.interpolate 0 = .ok identity ∧ q.interpolate 1 = .ok q ∧
    ∃ first second both, q.interpolate s = .ok first ∧ q.interpolate t = .ok second ∧
      q.interpolate (s + t) = .ok both ∧
      (first.compose second = both ∨ first.compose second = -both) ∧
      (0 ≤ q.w → first.compose second = both) ∧
      second.angle = t * q.angle := by
  have hinterpolate {r : ℝ} (hlow : 0 ≤ r) (hhigh : r ≤ 1) : q.interpolate r = .ok (q.slerp r) := by
    refine interpolate_eq_ok ?_
    norm_num
    exact ⟨hlow, hhigh⟩
  obtain ⟨hangle, hangleπ, n, hn, hparts, hsign⟩ := hq.exists_slerp_eq
  have hsum : (turn n (s * q.angle)).compose (turn n (t * q.angle)) =
      turn n ((s + t) * q.angle) := by
    rw [compose_turn hn, add_mul]
  refine ⟨?_, ?_, _, _, _, hinterpolate hs (by linarith), hinterpolate ht (by linarith),
    hinterpolate (by linarith) hst, ?_, fun hw => ?_, ?_⟩
  · rw [hinterpolate le_rfl zero_le_one, slerp_zero]
  · rw [hinterpolate zero_le_one le_rfl, slerp_one]
  · have hproduct := compose_eq_or_neg (hparts s) (hparts t)
    rw [hsum] at hproduct
    rcases hparts (s + t) with h | h
    · rw [h]
      exact hproduct
    · rw [h, neg_neg]
      exact hproduct.symm
  · rw [hsign hw, hsign hw, hsign hw, hsum]
  · have hturn : (turn n (t * q.angle)).angle = t * q.angle :=
      angle_turn hn (by positivity) (by nlinarith)
    rcases hparts t with h | h
    · rw [h, hturn]
    · rw [h, angle_neg, hturn]

/-- A versor that is spelled with the larger angle: a quarter of it and the rest come to all of it,
perhaps with the other sign. -/
theorem interpolate_add_long_way :
    let q : Orientation ℝ := ⟨-3 / 5, 4 / 5, 0, 0⟩
    q.IsVersor ∧ (0 : ℝ) ≤ 1 / 4 ∧ (0 : ℝ) ≤ 3 / 4 ∧ (1 / 4 + 3 / 4 : ℝ) ≤ 1 ∧
      ∃ first second, q.interpolate (1 / 4) = .ok first ∧ q.interpolate (3 / 4) = .ok second ∧
        (first.compose second = q ∨ first.compose second = -q) ∧
        second.angle = 3 / 4 * q.angle := by
  intro q
  have hq : q.IsVersor := by norm_num [q, IsVersor]
  have hs : (0 : ℝ) ≤ 1 / 4 := by norm_num
  have ht : (0 : ℝ) ≤ 3 / 4 := by norm_num
  have hst : (1 / 4 + 3 / 4 : ℝ) ≤ 1 := by norm_num
  obtain ⟨-, hend, first, second, both, hfirst, hsecond, hboth, hproduct, -, hangle⟩ :=
    interpolate_add hq hs ht hst
  have hsum : (1 / 4 + 3 / 4 : ℝ) = 1 := by norm_num
  rw [hsum, hend] at hboth
  obtain rfl : q = both := Except.ok.inj hboth
  exact ⟨hq, hs, ht, hst, first, second, hfirst, hsecond, hproduct, hangle⟩

end Orientation

end GreatCircle
