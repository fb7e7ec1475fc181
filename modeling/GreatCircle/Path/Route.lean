/-
# Great-circle routes on the map

`Route.between` is the whole way from two places to lines that can be drawn: the rotation
between them, the points along the arc, and the pieces on the map.
-/
import GreatCircle.Path.StyledLine
import GreatCircle.Sphere.Sampling

namespace GreatCircle

/-- The shortest route between two places, as it appears on the map. -/
structure Route (α : Type) where
  /-- The central angle of the route in radians. -/
  angle : α
  /-- The points along the route, before it is cut. -/
  points : List (MapPoint α)
  /-- The positions of the points after which it is cut. -/
  cuts : List Nat
  /-- The pieces that can be drawn. -/
  lines : List (StyledLine α)

variable {α : Type} [Scalar α]

/-- The points of the map along the arc between two places, in `n` equal steps. -/
def GeoPoint.pathTo (start finish : GeoPoint α) (n : StepCount) :
    Except (Fault α) (List (MapPoint α)) := do
  return (← start.sampleTo finish n).map GeoPoint.toMapPoint

/-- The route between two places, in `n` equal steps, cut where it crosses the
antimeridian. -/
def Route.between (start finish : GeoPoint α) (n : StepCount) (style : LineStyle)
    (mode : SplitMode) : Except (Fault α) (Route α) := do
  let rotation ← Orientation.between start.toVec3 finish.toVec3
  let points ← start.pathTo finish n
  return {
    angle := rotation.angle
    points := points
    cuts := mode.cuts (seamCrossings points)
    lines := (splitAtSeam mode points).map fun line => ⟨line, style⟩ }

end GreatCircle
