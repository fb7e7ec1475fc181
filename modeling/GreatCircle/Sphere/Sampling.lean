/-
# Points along a great circle

`Vec3.sampleTo` walks from one vector to another in a given number of equal steps, along the
shortest great-circle arc; `GeoPoint.sampleTo` does so between places.
-/
import GreatCircle.Sphere.Coordinates

namespace GreatCircle

open Scalar

variable {α : Type} [Scalar α]

/-- How many equal steps an arc is cut into: at least one. -/
structure StepCount where
  /-- The number of steps. -/
  val : Nat
  /-- There is a step. -/
  pos : 1 ≤ val
deriving DecidableEq, Repr

/-- The fraction of the way that is done after `i` of `n` steps. -/
def StepCount.fraction (n : StepCount) (i : Nat) : α := ofNat i / ofNat n.val

/-- The points where the vector `start` stands under a rotation that is `0`, `1/n`, … of the
way done. -/
def Orientation.sweep (rotation : Orientation α) (start : Vec3 α) (n : StepCount) :
    Except (Fault α) (List (Vec3 α)) :=
  (List.range (n.val + 1)).mapM fun i => do
    return (← rotation.interpolate (n.fraction i)).rotate start

/-- The points of the arc from `start` to `finish`, both ends included, in `n` equal steps. -/
def Vec3.sampleTo (start finish : Vec3 α) (n : StepCount) :
    Except (Fault α) (List (Vec3 α)) := do
  (← Orientation.between start finish).sweep start n

/-- The places along the arc from `start` to `finish`, both ends included, in `n` equal
steps. -/
def GeoPoint.sampleTo (start finish : GeoPoint α) (n : StepCount) :
    Except (Fault α) (List (GeoPoint α)) := do
  (← start.toVec3.sampleTo finish.toVec3 n).mapM Vec3.toGeoPoint

end GreatCircle
