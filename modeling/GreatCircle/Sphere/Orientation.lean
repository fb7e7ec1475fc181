/-
# Orientations

An `Orientation` is a rotation of space, kept as a quaternion `w + x i + y j + z k`.  Unit
quaternions are the rotations; the operations below are defined for all, and keep unit
quaternions unit.

* `Orientation.aboutAxis` turns about an axis, `Orientation.between` takes one direction to
  another along the shortest way.
* `Orientation.compose`, `Orientation.inverse` and `Orientation.relative` are the group.
* `Orientation.interpolate` is the part of a rotation that is done after a fraction of the
  time, at constant speed.
* `Orientation.rotate` applies a rotation to a vector.
-/
import GreatCircle.Sphere.Vec3

namespace GreatCircle

/-- A rotation as a quaternion. -/
structure Orientation (α : Type) where
  /-- The real part: the cosine of half the angle. -/
  w : α
  /-- The first imaginary part. -/
  x : α
  /-- The second imaginary part. -/
  y : α
  /-- The third imaginary part. -/
  z : α
deriving DecidableEq, Repr

namespace Orientation

open Scalar

variable {α : Type} [Scalar α]

/-- No rotation. -/
def identity : Orientation α := ⟨1.0, 0.0, 0.0, 0.0⟩

/-- The imaginary part, which points along the axis. -/
def axis (q : Orientation α) : Vec3 α := ⟨q.x, q.y, q.z⟩

/-- The same rotation, spelled with the opposite quaternion. -/
def neg (q : Orientation α) : Orientation α := ⟨-q.w, -q.x, -q.y, -q.z⟩

instance instNeg : Neg (Orientation α) := ⟨neg⟩

/-- The turn by an angle in radians about an axis that is not zero. -/
def turn (axis : Vec3 α) (angle : α) : Orientation α :=
  let half := angle / 2.0
  let s := sin half / axis.norm
  ⟨cos half, axis.x * s, axis.y * s, axis.z * s⟩

/-- The turn by an angle in radians about an axis of any length.  There must be an axis, and
the angle must be one that has a sine. -/
def aboutAxis (axis : Vec3 α) (angle : α) : Except (Fault α) (Orientation α) :=
  if axis.norm == 0.0 then .error .zeroAxis
  else if isInfinite (angle / 2.0) then .error .infiniteAngle
  else .ok (turn axis angle)

/-- The quaternion of length one with the same ratios. -/
def normalized (q : Orientation α) : Except (Fault α) (Orientation α) :=
  let length := sqrt (q.w * q.w + q.x * q.x + q.y * q.y + q.z * q.z)
  if length == 0.0 then .error .divisionByZero
  else .ok ⟨q.w / length, q.x / length, q.y / length, q.z / length⟩

/-- Two unit vectors count as opposite when one plus their inner product is below this. -/
def oppositeTolerance : α := 1.0e-15

/-- The shortest rotation that takes `a` to `b`.  Between opposite vectors there are many; a
half turn about the axis square to `a` is taken that lies in the plane of the polar axis and
the larger of the two other coordinates. -/
def between (a b : Vec3 α) : Except (Fault α) (Orientation α) :=
  let r := a.dot b + 1.0
  if r < oppositeTolerance then
    if magnitude a.z < magnitude a.x then normalized ⟨0.0, -a.y, a.x, 0.0⟩
    else normalized ⟨0.0, 0.0, -a.z, a.y⟩
  else
    let c := a.cross b
    normalized ⟨r, c.x, c.y, c.z⟩

/-- First `q`, then `p`: the product of the quaternions. -/
def compose (p q : Orientation α) : Orientation α :=
  ⟨p.w * q.w - p.x * q.x - p.y * q.y - p.z * q.z,
   p.w * q.x + p.x * q.w + p.y * q.z - p.z * q.y,
   p.w * q.y - p.x * q.z + p.y * q.w + p.z * q.x,
   p.w * q.z + p.x * q.y - p.y * q.x + p.z * q.w⟩

/-- The rotation back, for a unit quaternion: the conjugate. -/
def inverse (q : Orientation α) : Orientation α := ⟨q.w, -q.x, -q.y, -q.z⟩

/-- What has to follow `start` to give `finish`. -/
def relative (start finish : Orientation α) : Orientation α := finish.compose start.inverse

/-- The angle of the rotation in radians, from zero to half a turn. -/
def angle (q : Orientation α) : α := 2.0 * atan2 q.axis.norm (magnitude q.w)

/-- The rotation done after the fraction `t` of the time, at constant speed about a fixed
axis.  Of the two quaternions of the rotation the one with the smaller angle is taken, save
at the end, where it is left as it is. -/
def slerp (q : Orientation α) (t : α) : Orientation α :=
  if t == 0.0 then identity
  else if t == 1.0 then q
  else
    let p := if q.w < 0.0 then -q else q
    let length := p.axis.norm
    if length == 0.0 then identity
    else
      let half := atan2 length p.w
      let s := sin (t * half) / length
      ⟨cos (t * half), p.x * s, p.y * s, p.z * s⟩

/-- The part of a rotation done at a time from 0 to 1. -/
def interpolate (q : Orientation α) (t : α) : Except (Fault α) (Orientation α) :=
  if 0.0 ≤ t ∧ t ≤ 1.0 then .ok (q.slerp t) else .error (.fractionOutOfRange t)

/-- A vector after the rotation: with `u` the imaginary part and `t = 2 (u × v)`, it is
`v + w t + u × t`. -/
def rotate (q : Orientation α) (v : Vec3 α) : Vec3 α :=
  let tx := 2.0 * (q.y * v.z - q.z * v.y)
  let ty := 2.0 * (q.z * v.x - q.x * v.z)
  let tz := 2.0 * (q.x * v.y - q.y * v.x)
  ⟨v.x + q.w * tx + (q.y * tz - q.z * ty),
   v.y + q.w * ty + (q.z * tx - q.x * tz),
   v.z + q.w * tz + (q.x * ty - q.y * tx)⟩

@[simp] theorem axis_identity : (identity : Orientation α).axis = ⟨0.0, 0.0, 0.0⟩ := rfl

@[simp] theorem axis_inverse (q : Orientation α) : q.inverse.axis = -q.axis := rfl

@[simp] theorem axis_neg (q : Orientation α) : (-q).axis = -q.axis := rfl

@[simp] theorem neg_w (q : Orientation α) : (-q).w = -q.w := rfl

/-- Inside the interval an interpolation has an answer. -/
theorem interpolate_eq_ok {q : Orientation α} {t : α} (h : 0.0 ≤ t ∧ t ≤ 1.0) :
    q.interpolate t = .ok (q.slerp t) := if_pos h

end Orientation

end GreatCircle
