/-
# Running the program

`run` is the whole program but for its input and output.  It looks up files through a function
that it is given, reads them as documents with another, and says what is to be printed and how the
program ends.

A file of cities is looked for where the program runs, and then in the program's own folder.
-/
import GreatCircle.City.Default
import GreatCircle.City.Load
import GreatCircle.City.Lookup
import GreatCircle.Command.Plan
import GreatCircle.GeoJson.FeatureCollection
import GreatCircle.Json.Printer
import GreatCircle.Path.Route

namespace GreatCircle

/-- What is found under a path. -/
inductive FileEntry where
  /-- Nothing. -/
  | missing
  /-- A folder. -/
  | folder
  /-- A file with its bytes. -/
  | file (bytes : ByteArray)

/-- The bytes of a file. -/
def FileEntry.bytes? : FileEntry → Option ByteArray
  | file bytes => some bytes
  | missing | folder => none

/-- A failure that the program does not word: it ends the run at once. -/
inductive RunFault where
  /-- The file of settings is not taken to its end. -/
  | settings (fault : EnvFile.LoadFault)
  /-- The log level was taken away. -/
  | noLevel
  /-- There is no such log level. -/
  | unknownLevel (name : Text)
  /-- The number of steps was taken away. -/
  | noPoints
  /-- The file of cities is a folder. -/
  | folder (path : Text)
  /-- The file of cities is not read. -/
  | catalog (path : Text) (fault : CatalogFault)
  /-- The route has no answer. -/
  | sphere (fault : Fault Float)

/-- How a run ends. -/
inductive Outcome where
  /-- A document is printed. -/
  | printed (document : Value)
  /-- The program stops with a message. -/
  | stopped (message : Text)
  /-- The arguments are not understood. -/
  | misused (fault : UsageFault)
  /-- Help is shown. -/
  | help
  /-- The program fails. -/
  | failed (fault : RunFault)

/-- What is written to standard output, where `helpText` explains the program. -/
def Outcome.output? (outcome : Outcome) (helpText : String) : Option String :=
  match outcome with
  | printed document => some (Json.pretty document)
  | help => some helpText
  | stopped _ | misused _ | failed _ => none

/-- A run: the lines of messages, and the end. -/
structure Run where
  /-- The messages, in order. -/
  log : List Text
  /-- How the run ends. -/
  outcome : Outcome

/-- How a run without a plan ends. -/
def PlanFault.outcome : PlanFault → Outcome
  | settings fault => .failed (.settings fault)
  | config fault => .stopped ("Invalid configuration: " ++ fault.message)
  | help => .help
  | usage fault => .misused fault
  | noLevel => .failed .noLevel
  | unknownLevel name => .failed (.unknownLevel name)
  | noPoints => .failed .noPoints
  | tooFewPoints n => .stopped ("--points must be at least 1, got " ++ toString n)

namespace Plan

/-- The value of a setting in a document; one that was taken away is an empty list. -/
def settingValue {α : Type} (toValue : α → Value) : Given α → Value
  | .value a => toValue a
  | .nothing => .list []

/-- The markers at both ends of a route. -/
def endMarkers (plan : Plan) (start goal : GeoPoint Float) : List (Marker Float) :=
  if plan.markers then
    [start, goal].map fun p => {
      point := p.toMapPoint
      fill := some (settingValue Value.text plan.stroke)
      radius := some (.int 200)
      stroke := some (.text "#fff")
      strokeWidth := some (.int 80) }
  else []

/-- The style of the lines; a blank colour is none. -/
def style (plan : Plan) : LineStyle where
  stroke := (plan.stroke.value?.filter (! ·.isEmpty)).map Value.text
  strokeWidth := some (settingValue Value.float plan.strokeWidth)

/-- The document that is printed. -/
def document (plan : Plan) (paths : List (StyledLine Float)) (markers : List (Marker Float)) :
    Value :=
  if plan.geojson then featureCollection paths markers
  else
    let marked :=
      if markers.isEmpty then []
      else [(Value.text "markers", Value.list (markers.map Marker.toValue))]
    .object ((.text "paths", linesToValue paths) :: marked)

/-- The line that sums up a route. -/
def summary (start goal : GeoPoint Float) (route : Route Float) : Text :=
  toString route.lines.length ++ " path(s), " ++
    messageNumber.fixed 0 (start.distance goal GeoPoint.earthRadius) ++ " km"

/-- The events of a route. -/
def routeEvents (plan : Plan) (start goal : GeoPoint Float) (route : Route Float) :
    List LogEvent :=
  [.sampling plan.points.val route.angle] ++
    (if route.cuts.isEmpty then [] else [.crossings route.cuts]) ++
    [.routed start.toMapPoint goal.toMapPoint route.points.length route.lines.length]

/-- The run of a plan with a catalog.  The events are those that led to the catalog. -/
def runWith (plan : Plan) (catalog : Catalog) (events : List LogEvent) : Run :=
  let stop (outcome : Outcome) : Run := ⟨plan.logLevel.lines events, outcome⟩
  let places : Except LookupFault (GeoPoint Float × GeoPoint Float) := do
    let start ← catalog.resolve plan.start
    return (start, ← catalog.resolve plan.goal)
  match places with
  | .error fault => stop (.stopped ("Location lookup failed: " ++ fault.message))
  | .ok (start, goal) =>
    match Route.between start goal plan.points plan.style plan.mode with
    | .error fault => stop (.failed (.sphere fault))
    | .ok route =>
      let log := plan.logLevel.lines (events ++ plan.routeEvents start goal route)
      ⟨log ++ [summary start goal route],
        .printed (plan.document route.lines (plan.endMarkers start goal))⟩

/-- The run of a plan whose file of cities has been looked up. -/
def runWithFile (plan : Plan) (path : Text) (entry : FileEntry) (reader : DocumentReader) : Run :=
  match entry with
  | .missing => ⟨[], .stopped ("City catalog not found: " ++ path)⟩
  | .folder => ⟨[], .failed (.folder path)⟩
  | .file bytes =>
    match Catalog.ofBytes bytes reader with
    | .ok catalog =>
      plan.runWith (Catalog.default.overlay catalog) [.loaded catalog.entries.length path]
    | .error fault =>
      match fault.message? path with
      | some message => ⟨[], .stopped message⟩
      | none => ⟨[], .failed (.catalog path fault)⟩

end Plan

/-- The path does not depend on where the program runs. -/
def isAbsolute (path : Text) : Bool := path.points.head? = some '/'

/-- Finds a file: under its path, or else in the folder `root`.  The path under which it was
looked for last comes with it. -/
def locate {m : Type → Type} [Monad m] (root : Text) (lookup : Text → m FileEntry)
    (path : Text) : m (Text × FileEntry) := do
  match ← lookup path with
  | .missing =>
    if isAbsolute path then return (path, .missing)
    else
      let inRoot := root ++ "/" ++ path
      return (inRoot, ← lookup inRoot)
  | entry => return (path, entry)

/-- The name of the file of settings. -/
def settingsFile : String := ".env"

/-- The program, but for its input and output: files are looked up with `lookup`, and a file of
cities is read with `reader`. -/
def run {m : Type → Type} [Monad m] (root : Text) (lookup : Text → m FileEntry)
    (env : Environment) (args : List Text) (reader : DocumentReader := Yaml.read) : m Run := do
  match Plan.prepare env (← lookup settingsFile).bytes? args with
  | .error fault => return ⟨[], fault.outcome⟩
  | .ok plan =>
    match plan.citiesFile with
    | none => return plan.runWith Catalog.default []
    | some file =>
      let (path, entry) ← locate root lookup file
      return plan.runWithFile path entry reader

end GreatCircle
