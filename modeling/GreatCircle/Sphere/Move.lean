/-
# Chains of orientations

A `Move` takes one orientation to the next: it replaces it, or composes it with another, turns
it back, measures it against another, or does a part of it.  `Orientation.follow` makes a
whole chain of moves.
-/
import GreatCircle.Sphere.Coordinates

namespace GreatCircle

/-- A step from one orientation to the next. -/
inductive Move (α : Type) [Scalar α] where
  /-- Start anew from a given orientation. -/
  | set (q : Orientation α)
  /-- Start anew from a turn about an axis. -/
  | aboutAxis (axis : Vec3 α) (angle : α)
  /-- Start anew from the shortest rotation between two vectors. -/
  | between (a b : Vec3 α)
  /-- Start anew from the orientation of a place. -/
  | place (p : GeoPoint α)
  /-- Put a rotation before the current one. -/
  | compose (q : Orientation α)
  /-- Put a rotation after the current one. -/
  | precompose (q : Orientation α)
  /-- Turn back. -/
  | inverse
  /-- What has to follow `q` to give the current orientation. -/
  | relativeTo (q : Orientation α)
  /-- The part of the current rotation that is done at a time from 0 to 1. -/
  | interpolate (t : α)

namespace Orientation

variable {α : Type} [Scalar α]

/-- The orientation after a move. -/
def move (current : Orientation α) : Move α → Except (Fault α) (Orientation α)
  | .set q => .ok q
  | .aboutAxis axis angle => aboutAxis axis angle
  | .between a b => between a b
  | .place p => .ok p.orientation
  | .compose q => .ok (current.compose q)
  | .precompose q => .ok (q.compose current)
  | .inverse => .ok current.inverse
  | .relativeTo q => .ok (relative q current)
  | .interpolate t => current.interpolate t

/-- The orientation after a chain of moves, all of which have to succeed. -/
def follow (start : Orientation α) (moves : List (Move α)) : Except (Fault α) (Orientation α) :=
  moves.foldlM move start

end Orientation

end GreatCircle
