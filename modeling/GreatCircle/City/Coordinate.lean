/-
# Coordinates in documents and texts

A coordinate in a document is a number, a truth value, or a text that reads as a number:
`Value.toCoordinate`.  Two such texts give a place: `GeoPoint.ofTexts`.
-/
import GreatCircle.Data.Value
import GreatCircle.Decimal.Numeral
import GreatCircle.Sphere.GeoPoint

namespace GreatCircle

/-- Why coordinates are not taken. -/
inductive CoordinateFault where
  /-- The text, or the bytes, are no number. -/
  | notNumeral (given : Value)
  /-- The coordinates are out of range. -/
  | outOfRange (fault : Fault Float)

namespace CoordinateFault

/-- The wording of a fault. -/
def message : CoordinateFault → String
  | notNumeral given => "could not convert string to float: " ++ given.written
  | outOfRange fault => fault.message messageNumber.shortest

end CoordinateFault

/-- The double that a text stands for. -/
def coordinateOfText (t : Text) : Except CoordinateFault Float :=
  match Numeral.float? t with
  | some x => .ok x
  | none => .error (.notNumeral (.text t))

/-- The double that bytes stand for.  They are read as characters of the common script. -/
def coordinateOfBytes (bytes : List UInt8) : Except CoordinateFault Float :=
  let t := Text.ofChars (bytes.map fun b => Char.ofNat b.toNat)
  match if bytes.all (· < 0x80) then Numeral.float? t else none with
  | some x => .ok x
  | none => .error (.notNumeral (.bytes bytes))

/-- The place of two doubles. -/
def GeoPoint.ofCoordinates (lat lon : Float) : Except CoordinateFault (GeoPoint Float) :=
  match GeoPoint.ofDegrees lat lon with
  | .ok p => .ok p
  | .error fault => .error (.outOfRange fault)

/-- The place of a latitude and a longitude in texts. -/
def GeoPoint.ofTexts (lat lon : Text) : Except CoordinateFault (GeoPoint Float) := do
  GeoPoint.ofCoordinates (← coordinateOfText lat) (← coordinateOfText lon)

end GreatCircle
