/-
# Configuration

A `Config` holds the settings with which routes are drawn.  `Config.ofEnvironment` takes them
from six variables; a variable that is not set leaves its default.  White space around a value
counts for nothing.  A blank number or a blank file name is as good as none, a blank stroke
stays blank, and a blank split mode is a fault.
-/
import GreatCircle.Decimal.Numeral
import GreatCircle.Map.Polyline
import GreatCircle.Settings.Environment
import GreatCircle.Sphere.Sampling
import GreatCircle.Text.Case

namespace GreatCircle

/-- The settings with which routes are drawn. -/
structure Config where
  /-- How many steps a route is cut into. -/
  points : StepCount := ⟨200, by decide⟩
  /-- Where routes are cut. -/
  splitMode : SplitMode := .all
  /-- The file with more cities. -/
  citiesFile : Option Text := none
  /-- The colour of lines. -/
  stroke : Text := "green"
  /-- The width of lines. -/
  strokeWidth : Float := 60.0
  /-- Which messages are shown. -/
  logLevel : Text := "WARNING"

/-- Why an environment gives no configuration. -/
inductive ConfigFault where
  /-- The value of a variable is no whole number. -/
  | notInteger (name : String) (raw : Text)
  /-- The number of steps is less than one. -/
  | tooFewPoints (given : Int)
  /-- There is no such split mode. -/
  | badSplitMode (given : Text)
  /-- The value of a variable is no number. -/
  | notNumber (name : String) (raw : Text)
deriving DecidableEq, Repr

/-- The names of the variables. -/
structure VariableNames where
  /-- The number of steps. -/
  points : String := "GEOPATH_NUM_POINTS"
  /-- Where routes are cut. -/
  splitMode : String := "GEOPATH_SPLIT_MODE"
  /-- The file with more cities. -/
  citiesFile : String := "GEOPATH_CITIES_FILE"
  /-- The colour of lines. -/
  stroke : String := "GEOPATH_STROKE"
  /-- The width of lines. -/
  strokeWidth : String := "GEOPATH_STROKE_WIDTH"
  /-- Which messages are shown. -/
  logLevel : String := "GEOPATH_LOG_LEVEL"

/-- The names of the variables. -/
def variableNames : VariableNames := {}

namespace ConfigFault

/-- The wording of a fault. -/
def message : ConfigFault → Text
  | notInteger name raw => name ++ " must be an integer, got '" ++ raw ++ "'."
  | tooFewPoints n => variableNames.points ++ " must be at least 1, got " ++ toString n ++ "."
  | badSplitMode given =>
    variableNames.splitMode ++ " must be one of ('all', 'first'), got '" ++ given ++ "'."
  | notNumber name raw => name ++ " must be a number, got '" ++ raw ++ "'."

end ConfigFault

/-- The split mode of a name in lower case. -/
def SplitMode.ofName? (name : Text) : Option SplitMode :=
  if name = "all" then some .all else if name = "first" then some .first else none

/-- The name of a split mode. -/
def SplitMode.name : SplitMode → String
  | all => "all"
  | first => "first"

namespace Config

/-- The value of a variable without white space around it; none if it is not set or blank. -/
def filled? (env : Environment) (name : Text) : Option Text :=
  ((env.get? name).map Text.strip).filter (· != "")

/-- The number of steps. -/
def readPoints (env : Environment) (default : StepCount) : Except ConfigFault StepCount :=
  match filled? env variableNames.points with
  | none => .ok default
  | some raw =>
    match Numeral.int? raw with
    | none => .error (.notInteger variableNames.points raw)
    | some n => if h : 1 ≤ n.toNat then .ok ⟨n.toNat, h⟩ else .error (.tooFewPoints n)

/-- The split mode. -/
def readSplitMode (env : Environment) (default : SplitMode) : Except ConfigFault SplitMode :=
  match env.get? variableNames.splitMode with
  | none => .ok default
  | some raw =>
    let name := Text.lower (Text.strip raw)
    match SplitMode.ofName? name with
    | some mode => .ok mode
    | none => .error (.badSplitMode name)

/-- The width of lines. -/
def readStrokeWidth (env : Environment) (default : Float) : Except ConfigFault Float :=
  match filled? env variableNames.strokeWidth with
  | none => .ok default
  | some raw =>
    match Numeral.float? raw with
    | none => .error (.notNumber variableNames.strokeWidth raw)
    | some x => .ok x

/-- The settings of an environment.  Of several bad variables the first in this order is
reported: the number of steps, the split mode, the width of lines. -/
def ofEnvironment (env : Environment) : Except ConfigFault Config := do
  let default : Config := {}
  let points ← readPoints env default.points
  let splitMode ← readSplitMode env default.splitMode
  let strokeWidth ← readStrokeWidth env default.strokeWidth
  return {
    points := points
    splitMode := splitMode
    citiesFile := filled? env variableNames.citiesFile
    stroke := ((env.get? variableNames.stroke).map Text.strip).getD default.stroke
    strokeWidth := strokeWidth
    logLevel :=
      ((env.get? variableNames.logLevel).map fun raw => Text.upper (Text.strip raw)).getD
        default.logLevel }

end Config

end GreatCircle
