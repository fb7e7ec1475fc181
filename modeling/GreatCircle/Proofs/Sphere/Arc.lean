/-
# Going along a great circle

From a point `a` of the sphere one can set out in any direction `e` square to it.  After the
angle `φ` one stands at `a.travel e φ`.  The points reached in this way lie on the sphere, and
two of them are as far apart as their angles differ (`IsHeading.angle_travel`).
-/
import GreatCircle.Proofs.Sphere.Vector

namespace GreatCircle

namespace Vec3

/-- `a` is a point of the sphere, and `e` a direction in which to set out from it. -/
structure IsHeading (a e : Vec3 ℝ) : Prop where
  onSphere : a.OnSphere
  unit : e.OnSphere
  perp : a.dot e = 0

/-- The point reached from `a` in the direction `e` after the angle `φ`. -/
noncomputable def travel (a e : Vec3 ℝ) (φ : ℝ) : Vec3 ℝ := Real.cos φ • a + Real.sin φ • e

lemma smul_cross (s : ℝ) (a b : Vec3 ℝ) : (s • a).cross b = s • a.cross b := by
  ext <;> simp <;> ring

lemma cross_smul (s : ℝ) (a b : Vec3 ℝ) : a.cross (s • b) = s • a.cross b := by
  ext <;> simp <;> ring

/-- A vector turned twice about an axis square to it points back. -/
lemma cross_cross_of_perp {n v : Vec3 ℝ} (h : n.dot v = 0) :
    n.cross (n.cross v) = (-n.dot n) • v := by
  rw [dot_def] at h
  ext
  · simp only [cross_x, cross_y, cross_z, smul_x, dot_def]
    linear_combination n.x * h
  · simp only [cross_x, cross_y, cross_z, smul_y, dot_def]
    linear_combination n.y * h
  · simp only [cross_x, cross_y, cross_z, smul_z, dot_def]
    linear_combination n.z * h

@[simp] lemma travel_zero (a e : Vec3 ℝ) : a.travel e 0 = a := by
  ext <;> simp [travel]

@[simp] lemma travel_pi (a e : Vec3 ℝ) : a.travel e Real.pi = -a := by
  ext <;> simp [travel]

/-- Square to an axis, the axis turns a point of the sphere into a direction. -/
lemma isHeading_cross {n a : Vec3 ℝ} (hn : n.OnSphere) (ha : a.OnSphere) (h : n.dot a = 0) :
    IsHeading a (n.cross a) := by
  refine ⟨ha, ?_, dot_cross_right n a⟩
  rw [onSphere_iff, dot_cross_cross, onSphere_iff.1 hn, onSphere_iff.1 ha, h]
  norm_num

namespace IsHeading

variable {a e : Vec3 ℝ} (h : IsHeading a e)
include h

lemma dot_travel_travel (φ ψ : ℝ) : (a.travel e φ).dot (a.travel e ψ) = Real.cos (ψ - φ) := by
  have haa := onSphere_iff.1 h.onSphere
  have hee := onSphere_iff.1 h.unit
  have hea : e.dot a = 0 := by rw [dot_comm, h.perp]
  rw [travel, travel, add_dot, dot_add, dot_add]
  simp only [smul_dot, dot_smul, haa, hee, hea, h.perp]
  rw [Real.cos_sub]
  ring

lemma onSphere_travel (φ : ℝ) : (a.travel e φ).OnSphere := by
  rw [onSphere_iff, h.dot_travel_travel, sub_self, Real.cos_zero]

/-- Two points of a great circle, up to half a turn apart, are as far apart as their angles
differ. -/
lemma angle_travel {φ ψ : ℝ} (hle : φ ≤ ψ) (hπ : ψ - φ ≤ Real.pi) :
    (a.travel e φ).angle (a.travel e ψ) = ψ - φ :=
  angle_eq (h.onSphere_travel φ) (h.onSphere_travel ψ) (by linarith) hπ
    (h.dot_travel_travel φ ψ)

end IsHeading

end Vec3

end GreatCircle
