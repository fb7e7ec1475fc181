/-
# What a run is going to do

`Plan.prepare` settles everything that can be settled before the file of cities is looked for: it
lays the file of settings under the environment, takes the configuration, and lays the options
over it.  The configuration has to be sound even where an option replaces it.
-/
import GreatCircle.Command.Log
import GreatCircle.Command.Options
import GreatCircle.Settings.Config
import GreatCircle.Settings.EnvFile

namespace GreatCircle

/-- What a run is going to do. -/
structure Plan where
  /-- Where the route starts, unless that was taken away. -/
  start : Option Text
  /-- Where the route ends, unless that was taken away. -/
  goal : Option Text
  /-- How many steps it is cut into. -/
  points : StepCount
  /-- Where it is cut. -/
  mode : SplitMode
  /-- The file with more cities. -/
  citiesFile : Option Text
  /-- The colour of lines, which may be blank. -/
  stroke : Given Text
  /-- The width of lines. -/
  strokeWidth : Given Float
  /-- GeoJSON is written. -/
  geojson : Bool
  /-- Both ends are marked. -/
  markers : Bool
  /-- Which messages are shown. -/
  logLevel : LogLevel

/-- Why there is no plan. -/
inductive PlanFault where
  /-- The file of settings is not taken to its end. -/
  | settings (fault : EnvFile.LoadFault)
  /-- The environment gives no configuration. -/
  | config (fault : ConfigFault)
  /-- Help was asked for. -/
  | help
  /-- The arguments are not understood. -/
  | usage (fault : UsageFault)
  /-- The log level was taken away. -/
  | noLevel
  /-- There is no such log level. -/
  | unknownLevel (name : Text)
  /-- The number of steps was taken away. -/
  | noPoints
  /-- The number of steps is less than one. -/
  | tooFewPoints (given : Int)

namespace Plan

/-- The plan of a configuration with options laid over it. -/
def ofOptions (config : Config) (o : Options) : Except PlanFault Plan := do
  let .value levelName := o.logLevel.getD (.value config.logLevel) | throw .noLevel
  let some level := LogLevel.ofName? levelName.upper | throw (.unknownLevel levelName.upper)
  let points ← match o.points with
    | none => pure config.points
    | some .nothing => throw .noPoints
    | some (.value n) => if h : 1 ≤ n.toNat then pure ⟨n.toNat, h⟩ else throw (.tooFewPoints n)
  return {
    start := o.start.bind Given.value?
    goal := o.goal.bind Given.value?
    points := points
    mode := if o.firstOnly then .first else config.splitMode
    citiesFile := ((o.cities.map Given.value?).getD config.citiesFile).filter (· != "")
    stroke := o.stroke.getD (.value config.stroke)
    strokeWidth := o.strokeWidth.getD (.value config.strokeWidth)
    geojson := o.geojson
    markers := o.markers
    logLevel := level }

/-- The plan of an environment, a file of settings and arguments. -/
def prepare (env : Environment) (settings : Option ByteArray) (args : List Text) :
    Except PlanFault Plan := do
  let (layered, fault) := env.load settings
  if let some fault := fault then throw (.settings fault)
  let config ← (Config.ofEnvironment layered).mapError .config
  match ← (Options.parse args).mapError .usage with
  | .help => throw .help
  | .options o _ => ofOptions config o

end Plan

end GreatCircle
