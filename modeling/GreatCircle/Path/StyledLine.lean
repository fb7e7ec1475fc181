/-
# Styled lines and markers

A `StyledLine` is a line on the map with a style, a `Marker` a point with one.  Both are
written as objects; whoever draws them reads the longitude first.
-/
import GreatCircle.Map.Polyline
import GreatCircle.Path.LineStyle

namespace GreatCircle

/-- A line on the map with its style. -/
structure StyledLine (α : Type) where
  /-- The line. -/
  line : Polyline α
  /-- How it is drawn. -/
  style : LineStyle

/-- A point of the map as a list of two numbers. -/
def MapPoint.toValue (p : MapPoint Float) : Value := .list [.float p.lon, .float p.lat]

/-- The points of a line as a list. -/
def Polyline.toValue (line : Polyline Float) : Value := .list (line.points.map MapPoint.toValue)

/-- A line as an object: its points and what is set of its style. -/
def StyledLine.toValue (styled : StyledLine Float) : Value :=
  .object ((.text "points", styled.line.toValue) :: styled.style.fields)

/-- A point that is marked on the map. -/
structure Marker (α : Type) where
  /-- Where it is. -/
  point : MapPoint α
  /-- The colour of its inside. -/
  fill : Option Value := none
  /-- Its size. -/
  radius : Option Value := none
  /-- The colour of its rim. -/
  stroke : Option Value := none
  /-- The width of its rim. -/
  strokeWidth : Option Value := none

namespace Marker

/-- The fields in which the looks of a marker are written. -/
def fields {α : Type} (m : Marker α) : List (Value × Value) :=
  Value.presentFields
    [("fill", m.fill), ("radius", m.radius), ("stroke", m.stroke), ("strokeWidth", m.strokeWidth)]

/-- A marker as an object: its point and what is set of its looks. -/
def toValue (m : Marker Float) : Value :=
  .object ((.text "lonLat", m.point.toValue) :: m.fields)

end Marker

/-- Several lines as a list of objects. -/
def linesToValue (lines : List (StyledLine Float)) : Value :=
  .list (lines.map StyledLine.toValue)

end GreatCircle
