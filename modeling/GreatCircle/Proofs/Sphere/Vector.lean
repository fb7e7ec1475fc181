/-
# Vectors over the real numbers

Sums and multiples of vectors, the identities of the two products, and what the angle between
two points of the sphere is: the arc cosine of their inner product (`Vec3.angle_eq_arccos`).
-/
import Mathlib.Analysis.SpecialFunctions.Trigonometric.Inverse
import Mathlib.Tactic.LinearCombination
import GreatCircle.Proofs.Exact
import GreatCircle.Sphere.Vec3

namespace GreatCircle

open Scalar

attribute [ext] Vec3

namespace Vec3

noncomputable instance instAdd : Add (Vec3 ℝ) := ⟨fun a b => ⟨a.x + b.x, a.y + b.y, a.z + b.z⟩⟩

noncomputable instance instSMul : SMul ℝ (Vec3 ℝ) := ⟨fun s v => ⟨s * v.x, s * v.y, s * v.z⟩⟩

@[simp] lemma add_x (a b : Vec3 ℝ) : (a + b).x = a.x + b.x := rfl

@[simp] lemma add_y (a b : Vec3 ℝ) : (a + b).y = a.y + b.y := rfl

@[simp] lemma add_z (a b : Vec3 ℝ) : (a + b).z = a.z + b.z := rfl

@[simp] lemma smul_x (s : ℝ) (v : Vec3 ℝ) : (s • v).x = s * v.x := rfl

@[simp] lemma smul_y (s : ℝ) (v : Vec3 ℝ) : (s • v).y = s * v.y := rfl

@[simp] lemma smul_z (s : ℝ) (v : Vec3 ℝ) : (s • v).z = s * v.z := rfl

/-! ### The products -/

lemma dot_def (a b : Vec3 ℝ) : a.dot b = a.x * b.x + a.y * b.y + a.z * b.z := rfl

@[simp] lemma cross_x (a b : Vec3 ℝ) : (a.cross b).x = a.y * b.z - a.z * b.y := rfl

@[simp] lemma cross_y (a b : Vec3 ℝ) : (a.cross b).y = a.z * b.x - a.x * b.z := rfl

@[simp] lemma cross_z (a b : Vec3 ℝ) : (a.cross b).z = a.x * b.y - a.y * b.x := rfl

lemma dot_comm (a b : Vec3 ℝ) : a.dot b = b.dot a := by
  simp only [dot_def]
  ring

lemma dot_add (a b c : Vec3 ℝ) : a.dot (b + c) = a.dot b + a.dot c := by
  simp only [dot_def, add_x, add_y, add_z]
  ring

lemma dot_smul (s : ℝ) (a b : Vec3 ℝ) : a.dot (s • b) = s * a.dot b := by
  simp only [dot_def, smul_x, smul_y, smul_z]
  ring

lemma add_dot (a b c : Vec3 ℝ) : (a + b).dot c = a.dot c + b.dot c := by
  rw [dot_comm, dot_add, dot_comm c a, dot_comm c b]

lemma smul_dot (s : ℝ) (a b : Vec3 ℝ) : (s • a).dot b = s * a.dot b := by
  rw [dot_comm, dot_smul, dot_comm]

lemma dot_cross_left (a b : Vec3 ℝ) : a.dot (a.cross b) = 0 := by
  simp only [dot_def, cross_x, cross_y, cross_z]
  ring

lemma dot_cross_right (a b : Vec3 ℝ) : b.dot (a.cross b) = 0 := by
  simp only [dot_def, cross_x, cross_y, cross_z]
  ring

/-- The square of the area between two vectors. -/
lemma dot_cross_cross (a b : Vec3 ℝ) :
    (a.cross b).dot (a.cross b) = a.dot a * b.dot b - a.dot b * a.dot b := by
  simp only [dot_def, cross_x, cross_y, cross_z]
  ring

lemma dot_self_nonneg (v : Vec3 ℝ) : 0 ≤ v.dot v := by
  rw [dot_def]
  exact add_nonneg (add_nonneg (mul_self_nonneg _) (mul_self_nonneg _)) (mul_self_nonneg _)

lemma eq_zero_of_dot_self {v : Vec3 ℝ} (h : v.dot v = 0) : v = ⟨0, 0, 0⟩ := by
  rw [dot_def] at h
  have hx : v.x = 0 := by nlinarith [mul_self_nonneg v.x, mul_self_nonneg v.y, mul_self_nonneg v.z]
  have hy : v.y = 0 := by nlinarith [mul_self_nonneg v.x, mul_self_nonneg v.y, mul_self_nonneg v.z]
  have hz : v.z = 0 := by nlinarith [mul_self_nonneg v.x, mul_self_nonneg v.y, mul_self_nonneg v.z]
  exact Vec3.ext hx hy hz

lemma norm_eq_sqrt (v : Vec3 ℝ) : v.norm = Real.sqrt (v.dot v) := rfl

lemma norm_neg (v : Vec3 ℝ) : (-v).norm = v.norm := by
  simp only [norm, neg_x, neg_y, neg_z, neg_mul_neg]

/-! ### Points of the sphere -/

/-- The vector has length one. -/
def OnSphere (v : Vec3 ℝ) : Prop := v.norm = 1

lemma onSphere_iff {v : Vec3 ℝ} : v.OnSphere ↔ v.dot v = 1 := by
  rw [OnSphere, norm_eq_sqrt, Real.sqrt_eq_one]

/-- A vector that is not zero, made one long. -/
lemma onSphere_smul {v : Vec3 ℝ} (h : 0 < v.dot v) : ((v.norm)⁻¹ • v).OnSphere := by
  have hnorm : 0 < v.norm := Real.sqrt_pos.2 h
  have hsq : v.norm * v.norm = v.dot v := Real.mul_self_sqrt h.le
  rw [onSphere_iff, smul_dot, dot_smul, ← hsq]
  field_simp

lemma abs_dot_le_one {a b : Vec3 ℝ} (ha : a.OnSphere) (hb : b.OnSphere) : |a.dot b| ≤ 1 := by
  have harea := dot_cross_cross a b
  have hnonneg := dot_self_nonneg (a.cross b)
  rw [onSphere_iff.1 ha, onSphere_iff.1 hb] at harea
  rw [← abs_one, ← sq_le_sq]
  nlinarith

/-- The angle is told by its cosine. -/
lemma angle_eq {a b : Vec3 ℝ} (ha : a.OnSphere) (hb : b.OnSphere) {θ : ℝ} (hθ : 0 ≤ θ)
    (hθπ : θ ≤ Real.pi) (hcos : a.dot b = Real.cos θ) : a.angle b = θ := by
  have hsin : (a.cross b).norm = Real.sin θ := by
    rw [norm_eq_sqrt, dot_cross_cross, onSphere_iff.1 ha, onSphere_iff.1 hb, hcos,
      Real.sin_eq_sqrt_one_sub_cos_sq hθ hθπ, one_mul, sq]
  have hpolar := atan2_mul_sin_cos one_pos ⟨by linarith [Real.pi_pos], hθπ⟩
  rw [one_mul, one_mul] at hpolar
  rw [angle, hsin, hcos, hpolar]

/-- Between points of the sphere the angle is the arc cosine of the inner product. -/
lemma angle_eq_arccos {a b : Vec3 ℝ} (ha : a.OnSphere) (hb : b.OnSphere) :
    a.angle b = Real.arccos (a.dot b) := by
  obtain ⟨hlow, hhigh⟩ := abs_le.1 (abs_dot_le_one ha hb)
  exact angle_eq ha hb (Real.arccos_nonneg _) (Real.arccos_le_pi _)
    (Real.cos_arccos hlow hhigh).symm

section Angle

variable {a b : Vec3 ℝ} (ha : a.OnSphere) (hb : b.OnSphere)
include ha hb

lemma angle_nonneg : 0 ≤ a.angle b := by
  rw [angle_eq_arccos ha hb]
  exact Real.arccos_nonneg _

lemma angle_le_pi : a.angle b ≤ Real.pi := by
  rw [angle_eq_arccos ha hb]
  exact Real.arccos_le_pi _

lemma cos_angle : Real.cos (a.angle b) = a.dot b := by
  obtain ⟨hlow, hhigh⟩ := abs_le.1 (abs_dot_le_one ha hb)
  rw [angle_eq_arccos ha hb, Real.cos_arccos hlow hhigh]

end Angle

end Vec3

end GreatCircle
