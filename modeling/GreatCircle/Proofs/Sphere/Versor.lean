/-
# Versors

A versor is a quaternion of length one: `Orientation.IsVersor`.  An orientation is read as one of
Mathlib's quaternions, a vector as one without a real part.  Then composing is the product, turning
back is the conjugate, and a versor rotates a vector by standing before it and, conjugated, behind
it (`Orientation.IsVersor.toQuaternion_rotate`).  The laws of rotations come from there:

* `Orientation.compose_assoc`, `IsVersor.inverse_compose`, `IsVersor.compose_eq_iff`: the group;
* `IsVersor.rotate_compose`: the group acts on vectors;
* `IsVersor.dot_rotate`, `IsVersor.cross_rotate`: lengths, angles and the sense of turning stay.
-/
import Mathlib.Algebra.Quaternion
import GreatCircle.Proofs.Sphere.Turn

namespace GreatCircle

open Scalar

namespace Vec3

/-- The vector as a quaternion without a real part. -/
def toQuaternion (v : Vec3 ℝ) : Quaternion ℝ := ⟨0, v.x, v.y, v.z⟩

section Parts

variable (v : Vec3 ℝ)

@[simp] lemma re_toQuaternion : v.toQuaternion.re = 0 := rfl

@[simp] lemma imI_toQuaternion : v.toQuaternion.imI = v.x := rfl

@[simp] lemma imJ_toQuaternion : v.toQuaternion.imJ = v.y := rfl

@[simp] lemma imK_toQuaternion : v.toQuaternion.imK = v.z := rfl

end Parts

lemma toQuaternion_injective : Function.Injective Vec3.toQuaternion := by
  intro u v h
  exact Vec3.ext (congrArg QuaternionAlgebra.imI h) (congrArg QuaternionAlgebra.imJ h)
    (congrArg QuaternionAlgebra.imK h)

/-- The product of two vectors as quaternions holds both of their products. -/
lemma toQuaternion_mul (u v : Vec3 ℝ) :
    u.toQuaternion * v.toQuaternion = (u.cross v).toQuaternion - (u.dot v : ℝ) := by
  apply Quaternion.ext <;> simp [dot_def] <;> ring

end Vec3

namespace Orientation

/-- The quaternion of length one. -/
def IsVersor (q : Orientation ℝ) : Prop := q.w * q.w + q.x * q.x + q.y * q.y + q.z * q.z = 1

/-- The orientation as a quaternion. -/
def toQuaternion (q : Orientation ℝ) : Quaternion ℝ := ⟨q.w, q.x, q.y, q.z⟩

section Parts

variable (q : Orientation ℝ)

@[simp] lemma re_toQuaternion : q.toQuaternion.re = q.w := rfl

@[simp] lemma imI_toQuaternion : q.toQuaternion.imI = q.x := rfl

@[simp] lemma imJ_toQuaternion : q.toQuaternion.imJ = q.y := rfl

@[simp] lemma imK_toQuaternion : q.toQuaternion.imK = q.z := rfl

end Parts

lemma toQuaternion_injective : Function.Injective Orientation.toQuaternion := by
  intro p q h
  exact Orientation.ext (congrArg QuaternionAlgebra.re h) (congrArg QuaternionAlgebra.imI h)
    (congrArg QuaternionAlgebra.imJ h) (congrArg QuaternionAlgebra.imK h)

@[simp] lemma toQuaternion_identity : (identity : Orientation ℝ).toQuaternion = 1 := by
  apply Quaternion.ext <;> norm_num [identity, Quaternion.re_one, Quaternion.imI_one,
    Quaternion.imJ_one, Quaternion.imK_one]

@[simp] lemma toQuaternion_compose (p q : Orientation ℝ) :
    (p.compose q).toQuaternion = p.toQuaternion * q.toQuaternion := by
  apply Quaternion.ext <;> simp [compose]

@[simp] lemma toQuaternion_inverse (q : Orientation ℝ) :
    q.inverse.toQuaternion = star q.toQuaternion := by
  apply Quaternion.ext <;> simp [inverse]

@[simp] lemma toQuaternion_neg (q : Orientation ℝ) : (-q).toQuaternion = -q.toQuaternion := by
  apply Quaternion.ext <;> simp <;> rfl

lemma isVersor_iff {q : Orientation ℝ} : q.IsVersor ↔ Quaternion.normSq q.toQuaternion = 1 := by
  rw [IsVersor, Quaternion.normSq_def']
  simp only [toQuaternion, sq]

/-! ### The group -/

section Monoid

variable (p q r : Orientation ℝ)

lemma compose_assoc : (p.compose q).compose r = p.compose (q.compose r) := by
  apply toQuaternion_injective
  simp only [toQuaternion_compose, mul_assoc]

lemma identity_compose : identity.compose q = q := by
  apply toQuaternion_injective
  simp

lemma compose_identity : q.compose identity = q := by
  apply toQuaternion_injective
  simp

end Monoid

/-! ### The opposite quaternion -/

noncomputable instance instInvolutiveNeg : InvolutiveNeg (Orientation ℝ) where
  neg_neg q := by
    apply toQuaternion_injective
    rw [toQuaternion_neg, toQuaternion_neg, neg_neg]

lemma neg_compose (p q : Orientation ℝ) : (-p).compose q = -p.compose q := by
  apply toQuaternion_injective
  rw [toQuaternion_neg, toQuaternion_compose, toQuaternion_compose, toQuaternion_neg]
  exact neg_mul p.toQuaternion q.toQuaternion

lemma compose_neg (p q : Orientation ℝ) : p.compose (-q) = -p.compose q := by
  apply toQuaternion_injective
  rw [toQuaternion_neg, toQuaternion_compose, toQuaternion_compose, toQuaternion_neg]
  exact mul_neg p.toQuaternion q.toQuaternion

/-- Up to the sign, a product depends on its factors up to theirs. -/
lemma compose_eq_or_neg {p q r s : Orientation ℝ} (hp : p = r ∨ p = -r) (hq : q = s ∨ q = -s) :
    p.compose q = r.compose s ∨ p.compose q = -r.compose s := by
  rcases hp with rfl | rfl
  · rcases hq with rfl | rfl
    · exact Or.inl rfl
    · exact Or.inr (compose_neg p s)
  · rcases hq with rfl | rfl
    · exact Or.inr (neg_compose r q)
    · left
      rw [neg_compose, compose_neg, neg_neg]

lemma isVersor_identity : (identity : Orientation ℝ).IsVersor := by
  rw [isVersor_iff, toQuaternion_identity, map_one]

namespace IsVersor

variable {p q : Orientation ℝ}

/-- The four-square identity: the length of a product is the product of the lengths. -/
lemma compose (hp : p.IsVersor) (hq : q.IsVersor) : (p.compose q).IsVersor := by
  rw [isVersor_iff] at hp hq ⊢
  rw [toQuaternion_compose, map_mul, hp, hq, one_mul]

lemma inverse (hq : q.IsVersor) : q.inverse.IsVersor := by
  rw [isVersor_iff] at hq ⊢
  rw [toQuaternion_inverse, Quaternion.normSq_star, hq]

lemma mul_star (hq : q.IsVersor) : q.toQuaternion * star q.toQuaternion = 1 := by
  rw [Quaternion.self_mul_star, isVersor_iff.1 hq]
  rfl

lemma star_mul (hq : q.IsVersor) : star q.toQuaternion * q.toQuaternion = 1 := by
  rw [Quaternion.star_mul_self, isVersor_iff.1 hq]
  rfl

lemma inverse_compose (hq : q.IsVersor) : q.inverse.compose q = identity := by
  apply toQuaternion_injective
  simp [hq.star_mul]

lemma compose_inverse (hq : q.IsVersor) : q.compose q.inverse = identity := by
  apply toQuaternion_injective
  simp [hq.mul_star]

/-- What has to follow a versor to give another orientation is determined. -/
lemma compose_eq_iff (hp : p.IsVersor) {r : Orientation ℝ} :
    r.compose p = q ↔ r = relative p q := by
  constructor
  · rintro rfl
    rw [relative, compose_assoc, hp.compose_inverse, compose_identity]
  · rintro rfl
    rw [relative, compose_assoc, hp.inverse_compose, compose_identity]

/-! ### Its action on vectors -/

lemma toQuaternion_rotate (hq : q.IsVersor) (v : Vec3 ℝ) :
    (q.rotate v).toQuaternion = q.toQuaternion * v.toQuaternion * star q.toQuaternion := by
  rw [IsVersor] at hq
  -- at other lengths the two sides differ: `rotate` keeps a summand `v` that the product scales
  apply Quaternion.ext
  · simp
    ring
  · norm_num [Orientation.rotate]
    linear_combination (-v.x) * hq
  · norm_num [Orientation.rotate]
    linear_combination (-v.y) * hq
  · norm_num [Orientation.rotate]
    linear_combination (-v.z) * hq

lemma rotate_compose (hp : p.IsVersor) (hq : q.IsVersor) (v : Vec3 ℝ) :
    (p.compose q).rotate v = p.rotate (q.rotate v) := by
  apply Vec3.toQuaternion_injective
  rw [(hp.compose hq).toQuaternion_rotate, hp.toQuaternion_rotate, hq.toQuaternion_rotate,
    toQuaternion_compose, StarMul.star_mul]
  simp only [mul_assoc]

/-- Rotated vectors have the rotated product. -/
lemma toQuaternion_rotate_mul (hq : q.IsVersor) (u v : Vec3 ℝ) :
    (q.rotate u).toQuaternion * (q.rotate v).toQuaternion =
      q.toQuaternion * (u.toQuaternion * v.toQuaternion) * star q.toQuaternion := by
  rw [hq.toQuaternion_rotate, hq.toQuaternion_rotate]
  calc q.toQuaternion * u.toQuaternion * star q.toQuaternion *
        (q.toQuaternion * v.toQuaternion * star q.toQuaternion)
      = q.toQuaternion * u.toQuaternion * (star q.toQuaternion * q.toQuaternion) *
          v.toQuaternion * star q.toQuaternion := by simp only [mul_assoc]
    _ = q.toQuaternion * (u.toQuaternion * v.toQuaternion) * star q.toQuaternion := by
        rw [hq.star_mul, mul_one, ← mul_assoc]

/-- The real part of the rotated product tells the inner product, the rest the vector product. -/
lemma rotate_products (hq : q.IsVersor) (u v : Vec3 ℝ) :
    ((q.rotate u).cross (q.rotate v)).toQuaternion - ((q.rotate u).dot (q.rotate v) : ℝ) =
      (q.rotate (u.cross v)).toQuaternion - (u.dot v : ℝ) := by
  rw [← Vec3.toQuaternion_mul, hq.toQuaternion_rotate_mul, Vec3.toQuaternion_mul,
    hq.toQuaternion_rotate, mul_sub, sub_mul, ← Quaternion.coe_commutes,
    mul_assoc (u.dot v : Quaternion ℝ), hq.mul_star, mul_one]

lemma dot_rotate (hq : q.IsVersor) (u v : Vec3 ℝ) :
    (q.rotate u).dot (q.rotate v) = u.dot v := by
  have hre := congrArg QuaternionAlgebra.re (hq.rotate_products u v)
  simpa using hre

lemma cross_rotate (hq : q.IsVersor) (u v : Vec3 ℝ) :
    (q.rotate u).cross (q.rotate v) = q.rotate (u.cross v) := by
  have hproducts := hq.rotate_products u v
  rw [hq.dot_rotate] at hproducts
  exact Vec3.toQuaternion_injective (sub_left_injective hproducts)

end IsVersor

lemma rotate_identity (v : Vec3 ℝ) : identity.rotate v = v := by
  ext <;> norm_num [identity, rotate]

/-- **Versors are a group of rotations.**  Composing and turning back lead from versors to versors,
and are the operations of a group whose neutral element is no rotation.  The group acts on vectors,
and keeps the inner and the vector product.  What has to follow one versor to give another is
determined. -/
theorem versors_rotate {p q : Orientation ℝ} (hp : p.IsVersor) (hq : q.IsVersor)
    (r : Orientation ℝ) (u v : Vec3 ℝ) :
    ((p.compose q).IsVersor ∧ p.inverse.IsVersor ∧ (identity : Orientation ℝ).IsVersor) ∧
    (p.compose q).compose r = p.compose (q.compose r) ∧
    (identity.compose p = p ∧ p.compose identity = p) ∧
    (p.inverse.compose p = identity ∧ p.compose p.inverse = identity) ∧
    ((p.compose q).rotate v = p.rotate (q.rotate v) ∧ identity.rotate v = v) ∧
    (p.rotate u).dot (p.rotate v) = u.dot v ∧
    (p.rotate u).cross (p.rotate v) = p.rotate (u.cross v) ∧
    ∀ s : Orientation ℝ, s.compose p = q ↔ s = relative p q :=
  ⟨⟨hp.compose hq, hp.inverse, isVersor_identity⟩, compose_assoc p q r,
    ⟨identity_compose p, compose_identity p⟩, ⟨hp.inverse_compose, hp.compose_inverse⟩,
    ⟨hp.rotate_compose hq v, rotate_identity v⟩, hp.dot_rotate u v, hp.cross_rotate u v,
    fun _ => hp.compose_eq_iff⟩

/-- Two turns by a third about two diagonals of the cube come to half a turn about the polar
axis. -/
theorem versors_rotate_third_turns :
    let p : Orientation ℝ := ⟨1 / 2, 1 / 2, 1 / 2, 1 / 2⟩
    let q : Orientation ℝ := ⟨1 / 2, 1 / 2, 1 / 2, -1 / 2⟩
    p.IsVersor ∧ q.IsVersor ∧ p.compose q = ⟨0, 0, 1, 0⟩ ∧
      p.rotate (q.rotate ⟨1, 2, 3⟩) = ⟨-1, 2, -3⟩ := by
  intro p q
  have hp : p.IsVersor := by norm_num [p, IsVersor]
  have hq : q.IsVersor := by norm_num [q, IsVersor]
  have hhalf : p.compose q = ⟨0, 0, 1, 0⟩ := by
    ext <;> norm_num [p, q, compose]
  obtain ⟨-, -, -, -, ⟨haction, -⟩, -⟩ := versors_rotate hp hq p ⟨0, 0, 1⟩ ⟨1, 2, 3⟩
  refine ⟨hp, hq, hhalf, ?_⟩
  rw [← haction, hhalf]
  ext <;> norm_num [rotate]

end Orientation

end GreatCircle
