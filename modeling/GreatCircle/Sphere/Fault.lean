/-
# What can go wrong on the sphere

The geometry fails for a handful of reasons only.  `Fault` names them, and `Fault.message`
words them, given a way to write a number.
-/
namespace GreatCircle

/-- The reasons for which a computation on the sphere has no answer. -/
inductive Fault (α : Type) where
  /-- A number was divided by zero. -/
  | divisionByZero
  /-- The sine or cosine of an infinite angle was asked for. -/
  | infiniteAngle
  /-- The zero vector has no direction. -/
  | zeroVector
  /-- The zero vector is no axis of rotation. -/
  | zeroAxis
  /-- An interpolation was asked for outside the interval from 0 to 1. -/
  | fractionOutOfRange (fraction : α)
  /-- A latitude or a longitude is infinite or undefined. -/
  | notFinite (latitude longitude : α)
  /-- A latitude lies beyond a pole. -/
  | latitudeOutOfRange (latitude : α)
  /-- A longitude lies beyond the antimeridian. -/
  | longitudeOutOfRange (longitude : α)
deriving DecidableEq, Repr

namespace Fault

/-- The wording of a fault, with numbers written by `write`. -/
def message {α : Type} (write : α → String) : Fault α → String
  | divisionByZero => "float division by zero"
  | infiniteAngle => "math domain error"
  | zeroVector => "Cannot normalize the zero vector."
  | zeroAxis => "Rotation axis must be non-zero."
  | fractionOutOfRange t =>
    "Interpolation fraction must be within [0, 1], got " ++ write t ++ "."
  | notFinite lat lon =>
    "Coordinates must be finite, got lat=" ++ write lat ++ ", lon=" ++ write lon ++ "."
  | latitudeOutOfRange lat => "Latitude " ++ write lat ++ " is outside [-90, 90]."
  | longitudeOutOfRange lon => "Longitude " ++ write lon ++ " is outside [-180, 180]."

end Fault

end GreatCircle
