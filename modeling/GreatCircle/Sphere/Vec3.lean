/-
# Vectors in space

A point of the sphere is a vector from its centre.  Nothing forces a `Vec3` to have length
one: `Vec3.normalized` makes it so, and the operations say what they do for every length.
-/
import GreatCircle.Scalar
import GreatCircle.Sphere.Fault

namespace GreatCircle

/-- A vector in space.  The second coordinate points to the north pole, the third to the
point of latitude and longitude zero, the first to the east of it. -/
structure Vec3 (α : Type) where
  /-- Towards longitude 90 on the equator. -/
  x : α
  /-- Towards the north pole. -/
  y : α
  /-- Towards longitude 0 on the equator. -/
  z : α
deriving DecidableEq, Repr

namespace Vec3

open Scalar

variable {α : Type} [Scalar α]

/-- The vector of the opposite direction. -/
def neg (v : Vec3 α) : Vec3 α := ⟨-v.x, -v.y, -v.z⟩

instance instNeg : Neg (Vec3 α) := ⟨neg⟩

/-- The inner product. -/
def dot (a b : Vec3 α) : α := a.x * b.x + a.y * b.y + a.z * b.z

/-- The vector product. -/
def cross (a b : Vec3 α) : Vec3 α :=
  ⟨a.y * b.z - a.z * b.y, a.z * b.x - a.x * b.z, a.x * b.y - a.y * b.x⟩

/-- The length. -/
def norm (v : Vec3 α) : α := sqrt (v.x * v.x + v.y * v.y + v.z * v.z)

/-- The vector of length one in the same direction. -/
def normalized (v : Vec3 α) : Except (Fault α) (Vec3 α) :=
  let length := v.norm
  if length == 0.0 then .error .zeroVector
  else .ok ⟨v.x / length, v.y / length, v.z / length⟩

/-- The angle between two vectors in radians, from the sine and the cosine together: it stays
accurate where the vectors are nearly parallel or nearly opposite. -/
def angle (a b : Vec3 α) : α := atan2 (a.cross b).norm (a.dot b)

@[simp] theorem neg_x (v : Vec3 α) : (-v).x = -v.x := rfl

@[simp] theorem neg_y (v : Vec3 α) : (-v).y = -v.y := rfl

@[simp] theorem neg_z (v : Vec3 α) : (-v).z = -v.z := rfl

end Vec3

end GreatCircle
