/-
# Finding places

A place is asked for by the name of a city, or by its latitude and longitude with a comma
between.  `Catalog.resolve` looks for a city first, so that a name may hold a comma.
-/
import GreatCircle.City.Catalog
import GreatCircle.City.Coordinate
import GreatCircle.Text.Split

namespace GreatCircle

/-- Why a place is not found. -/
inductive LookupFault where
  /-- Nothing was asked for. -/
  | blank
  /-- What was asked for has the form of coordinates, which are not taken. -/
  | badCoordinates (asked : Text) (fault : CoordinateFault)
  /-- There is no such city. -/
  | unknown (asked : Text)

namespace LookupFault

/-- The wording of a fault. -/
def message : LookupFault → Text
  | blank => "Empty location"
  | badCoordinates asked fault => "Invalid coordinates '" ++ asked ++ "': " ++ fault.message
  | unknown asked => "Unknown location '" ++ asked ++ "'"

end LookupFault

namespace Catalog

/-- The place that is asked for; where nothing is, that counts as a blank text.  White space around
it counts for nothing, nor does the case of a name. -/
def resolve (catalog : Catalog) (asked : Option Text) : Except LookupFault (GeoPoint Float) :=
  let key := Text.strip (asked.getD "")
  if key = "" then .error .blank
  else match catalog.find? (Text.lower key) with
    | some city => .ok city.location
    | none =>
      match (Text.splitOn (',' : CodePoint) key.points).map fun part => Text.strip ⟨part⟩ with
      | [lat, lon] => (GeoPoint.ofTexts lat lon).mapError (.badCoordinates key)
      | _ => .error (.unknown key)

end Catalog

end GreatCircle
