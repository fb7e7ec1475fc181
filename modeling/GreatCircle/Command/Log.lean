/-
# Messages of the program

A `LogLevel` says which messages are shown, a `LogEvent` is something the program tells about its
work.  All events are of the lowest kind: only the levels for debugging show them.
-/
import GreatCircle.Data.Value
import GreatCircle.Map.MapPoint

namespace GreatCircle

/-- From which importance on messages are shown. -/
inductive LogLevel where
  /-- What ends the program. -/
  | critical
  /-- Errors. -/
  | error
  /-- Warnings. -/
  | warning
  /-- News. -/
  | info
  /-- Details. -/
  | debug
  /-- Everything. -/
  | everything
deriving DecidableEq, Repr

namespace LogLevel

/-- The level of a name in upper case. -/
def ofName? (name : Text) : Option LogLevel :=
  match name.string? with
  | some "CRITICAL" | some "FATAL" => some critical
  | some "ERROR" => some error
  | some "WARN" | some "WARNING" => some warning
  | some "INFO" => some info
  | some "DEBUG" => some debug
  | some "NOTSET" => some everything
  | _ => none

/-- Details are shown. -/
def showsDetails : LogLevel → Bool
  | debug | everything => true
  | _ => false

end LogLevel

/-- What the program tells about its work. -/
inductive LogEvent where
  /-- A catalog of so many cities was read from a file. -/
  | loaded (cities : Nat) (fileName : Text)
  /-- A route of some angle is cut into so many steps. -/
  | sampling (steps : Nat) (angle : Float)
  /-- A route crosses the antimeridian after these points. -/
  | crossings (positions : List Nat)
  /-- A route between two points has so many points and so many pieces. -/
  | routed (start goal : MapPoint Float) (points pieces : Nat)

namespace LogEvent

/-- The part of the program that an event comes from. -/
def source : LogEvent → String
  | loaded .. => "geopath.cities"
  | sampling .. => "geopath.sphere.geodesic"
  | crossings _ => "geopath.render.antimeridian"
  | routed .. => "geopath.render.paths"

/-- A point of the map in a message. -/
def pointText (p : MapPoint Float) : String :=
  "(" ++ messageNumber.shortest p.lon ++ ", " ++ messageNumber.shortest p.lat ++ ")"

/-- The wording of an event. -/
def message : LogEvent → Text
  | loaded cities fileName => "Loaded " ++ toString cities ++ " cities from " ++ fileName
  | sampling steps angle =>
    "Sampling " ++ toString steps ++ " segments over " ++ messageNumber.fixed 6 angle ++ " rad"
  | crossings positions =>
    "Antimeridian crossings after indices [" ++ ", ".intercalate (positions.map toString) ++ "]"
  | routed start goal points pieces =>
    "Geodesic " ++ pointText start ++ " -> " ++ pointText goal ++ ": " ++ toString points ++
      " points in " ++ toString pieces ++ " sub-paths"

/-- The line of an event. -/
def line (event : LogEvent) : Text := "DEBUG " ++ event.source ++ ": " ++ event.message

end LogEvent

/-- The lines that a level shows of some events. -/
def LogLevel.lines (level : LogLevel) (events : List LogEvent) : List Text :=
  if level.showsDetails then events.map LogEvent.line else []

end GreatCircle
