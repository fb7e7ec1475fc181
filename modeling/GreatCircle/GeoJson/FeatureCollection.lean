/-
# Lines and markers as GeoJSON

A feature collection holds one line feature for each styled line and then one point feature for
each marker.  The style becomes the properties of the feature.
-/
import GreatCircle.Path.StyledLine

namespace GreatCircle

/-- A feature with its geometry and its properties. -/
def feature (geometryType : String) (coordinates : Value) (properties : List (Value × Value)) :
    Value :=
  .object [
    (.text "type", .text "Feature"),
    (.text "geometry", .object [
      (.text "type", .text geometryType),
      (.text "coordinates", coordinates)]),
    (.text "properties", .object properties)]

/-- A line as a line feature. -/
def StyledLine.toFeature (styled : StyledLine Float) : Value :=
  feature "LineString" styled.line.toValue styled.style.fields

/-- A marker as a point feature. -/
def Marker.toFeature (m : Marker Float) : Value := feature "Point" m.point.toValue m.fields

/-- Lines and markers as one document. -/
def featureCollection (lines : List (StyledLine Float)) (markers : List (Marker Float)) :
    Value :=
  .object [
    (.text "type", .text "FeatureCollection"),
    (.text "features",
      .list (lines.map StyledLine.toFeature ++ markers.map Marker.toFeature))]

end GreatCircle
