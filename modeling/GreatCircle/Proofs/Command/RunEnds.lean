/-
# How a run ends

A run prints one document, or shows help, or stops with a message of its own and prints nothing; or
it fails, without a word of its own.  This file says of every run which of these it is.  The ways in
which it fails are two lists, one for each half of a run: `Plan.Unplanned` while it finds out what
to do, and `Plan.Fails` while it does it.  Each names what was at fault in the files, the variables
and the arguments, and `run_ends` says that the two lists are complete.
-/
import GreatCircle.Proofs.City.FirstFault
import GreatCircle.Proofs.Command.LayeredPlan

namespace GreatCircle

/-- A run that ends with a message, be it the program's own or the one about its arguments. -/
inductive Outcome.Worded : Outcome → Prop
  | stopped {message : Text} : Worded (.stopped message)
  | misused {fault : UsageFault} : Worded (.misused fault)

namespace Plan

/-! ### Finding out what to do -/

/-- What a plan is made from: a file of settings that is read to its end, variables above it that
give a configuration, and arguments that are understood. -/
structure Grounds (env : Environment) (file : Option ByteArray) (args : List Text)
    (config : Config) (parsed : Options.Parsed) : Prop where
  settings : ∃ text, EnvFile.text? file = some text ∧
    (∀ name value, env.Adds (EnvFile.parse text) name value →
      ¬ Environment.HoldsNull name value) ∧
    Config.ofEnvironment (env.above (EnvFile.parse text)) = .ok config
  arguments : Options.parse args = .ok parsed

/-- No log level comes of the options: it was taken away, or there is none of its name. -/
def NoLevel (config : Config) (o : Options) : Prop :=
  ∀ name, o.logLevel.getD (.value config.logLevel) = .value name →
    LogLevel.ofName? name.upper = none

/-- The ways in which there comes no plan and no word why. -/
inductive Unplanned (env : Environment) (file : Option ByteArray) (args : List Text) : Prop
  /-- The file of settings is no text. -/
  | noText (h : EnvFile.text? file = none)
  /-- A variable that the file of settings adds holds a null character. -/
  | null {text : List Char} {name value : Text} (holds : EnvFile.text? file = some text)
      (adds : env.Adds (EnvFile.parse text) name value)
      (null : Environment.HoldsNull name value)
  /-- There is no log level. -/
  | logLevel {config : Config} {o : Options} {extras : List Text}
      (grounds : Grounds env file args config (.options o extras)) (unknown : NoLevel config o)
  /-- There is a log level, but the number of steps was taken away. -/
  | noPoints {config : Config} {o : Options} {extras : List Text} {level : LogLevel}
      (grounds : Grounds env file args config (.options o extras))
      (known : takeLevel config o = .ok level) (taken : o.points = some .nothing)

section Prepare

variable {env : Environment} {file : Option ByteArray} {args : List Text} {config : Config}

lemma prepare_of_load_fault {fault : EnvFile.LoadFault} (h : (env.load file).2 = some fault) :
    prepare env file args = .error (.settings fault) := by
  unfold prepare
  cases hload : env.load file with
  | mk layered stopped =>
    rw [hload] at h
    obtain rfl : stopped = some fault := h
    rfl

lemma Grounds.prepare_help (h : Grounds env file args config .help) :
    prepare env file args = .error .help := by
  obtain ⟨⟨text, htext, hnull, hconfig⟩, hargs⟩ := h
  obtain ⟨after, hload, hget⟩ := Environment.exists_load_of_adds htext hnull
  rw [prepare_eq_of_load hload hget, hconfig, hargs]
  rfl

lemma Grounds.prepare_options {o : Options} {extras : List Text}
    (h : Grounds env file args config (.options o extras)) :
    prepare env file args = ofOptions config o := by
  obtain ⟨⟨text, htext, hnull, hconfig⟩, hargs⟩ := h
  obtain ⟨after, hload, hget⟩ := Environment.exists_load_of_adds htext hnull
  rw [prepare_eq_of_load hload hget, hconfig, hargs]
  rfl

/-- Either the settings are at fault, or there are grounds for a plan, or the configuration or the
arguments say why there are none. -/
lemma settings_or_grounds_or_worded (env : Environment) (file : Option ByteArray)
    (args : List Text) :
    Unplanned env file args ∨ (∃ config parsed, Grounds env file args config parsed) ∨
      ∃ fault, prepare env file args = .error fault ∧ fault.outcome.Worded := by
  cases htext : EnvFile.text? file with
  | none => exact Or.inl (.noText htext)
  | some text =>
    by_cases hnull : ∃ name value, env.Adds (EnvFile.parse text) name value ∧
        Environment.HoldsNull name value
    · obtain ⟨name, value, hadds, hholds⟩ := hnull
      exact Or.inl (.null htext hadds hholds)
    · have hsound : ∀ name value, env.Adds (EnvFile.parse text) name value →
          ¬ Environment.HoldsNull name value :=
        fun name value hadds hholds => hnull ⟨name, value, hadds, hholds⟩
      refine Or.inr ?_
      obtain ⟨after, hload, hget⟩ := Environment.exists_load_of_adds htext hsound
      rw [prepare_eq_of_load hload hget]
      cases hconfig : Config.ofEnvironment (env.above (EnvFile.parse text)) with
      | error fault => exact Or.inr ⟨.config fault, rfl, .stopped⟩
      | ok config =>
        cases hargs : Options.parse args with
        | error usage => exact Or.inr ⟨.usage usage, rfl, .misused⟩
        | ok parsed => exact Or.inl ⟨config, parsed, ⟨text, htext, hsound, hconfig⟩, hargs⟩

/-- A log level is missing without a word whenever it is missing. -/
lemma takeLevel_failed_iff (config : Config) {o : Options} :
    (∃ fault failure, takeLevel config o = .error fault ∧ fault.outcome = .failed failure) ↔
      NoLevel config o := by
  unfold takeLevel
  cases hgiven : o.logLevel.getD (.value config.logLevel) with
  | nothing =>
    refine iff_of_true ⟨_, _, rfl, rfl⟩ fun name hname => ?_
    rw [hgiven] at hname
    contradiction
  | value name =>
    simp only
    cases hfound : LogLevel.ofName? name.upper with
    | none =>
      refine iff_of_true ⟨_, _, rfl, rfl⟩ fun other hother => ?_
      obtain rfl := Given.value.inj (hgiven.symm.trans hother)
      exact hfound
    | some level =>
      refine iff_of_false (by simp) fun hnone => ?_
      rw [hnone name hgiven] at hfound
      contradiction

/-- A number of steps is missing without a word just when it was taken away. -/
lemma takePoints_failed_iff (config : Config) {o : Options} :
    (∃ fault failure, takePoints config o = .error fault ∧ fault.outcome = .failed failure) ↔
      o.points = some .nothing := by
  unfold takePoints
  constructor
  · rintro ⟨fault, failure, hfault, hfailed⟩
    split at hfault
    · contradiction
    · assumption
    · split at hfault
      · contradiction
      · obtain rfl := Except.error.inj hfault
        contradiction
  · intro htaken
    rw [htaken]
    exact ⟨_, _, rfl, rfl⟩

/-- Options laid over a configuration fail without a word just when the log level or the number of
steps does. -/
lemma ofOptions_failed_iff {o : Options} :
    (∃ fault failure, ofOptions config o = .error fault ∧ fault.outcome = .failed failure) ↔
      NoLevel config o ∨ ∃ level, takeLevel config o = .ok level ∧ o.points = some .nothing := by
  rw [ofOptions_eq, ← takeLevel_failed_iff config, ← takePoints_failed_iff config]
  cases takeLevel config o with
  | error lost => simp [Except.bind]
  | ok level =>
    cases takePoints config o with
    | error lost => simp [Except.bind, Except.map]
    | ok points => simp [Except.bind, Except.map]

/-- **No plan, and no word why.** -/
lemma unplanned_iff :
    (∃ fault failure, prepare env file args = .error fault ∧ fault.outcome = .failed failure) ↔
      Unplanned env file args := by
  constructor
  · rintro ⟨fault, failure, hfault, hfailed⟩
    rcases settings_or_grounds_or_worded env file args with
      hunplanned | ⟨config, parsed, hgrounds⟩ | ⟨other, hother, hworded⟩
    · exact hunplanned
    · cases parsed with
      | help =>
        rw [hgrounds.prepare_help] at hfault
        obtain rfl := Except.error.inj hfault
        contradiction
      | options o extras =>
        rw [hgrounds.prepare_options] at hfault
        rcases ofOptions_failed_iff.1 ⟨fault, failure, hfault, hfailed⟩ with
          hunknown | ⟨level, hknown, htaken⟩
        · exact .logLevel hgrounds hunknown
        · exact .noPoints hgrounds hknown htaken
    · obtain rfl := Except.error.inj (hfault.symm.trans hother)
      rw [hfailed] at hworded
      contradiction
  · rintro (htext | ⟨htext, hadds, hnull⟩ | ⟨hgrounds, hunknown⟩ | ⟨hgrounds, hknown, htaken⟩)
    · exact ⟨_, _, prepare_of_load_fault (by rw [Environment.load_of_not_text htext]), rfl⟩
    · exact ⟨_, _, prepare_of_load_fault (Environment.load_of_holdsNull htext hadds hnull), rfl⟩
    · rw [hgrounds.prepare_options]
      exact ofOptions_failed_iff.2 (Or.inl hunknown)
    · rw [hgrounds.prepare_options]
      exact ofOptions_failed_iff.2 (Or.inr ⟨_, hknown, htaken⟩)

/-- Help is shown just when there are grounds for a plan and the arguments ask for help. -/
lemma prepare_help_iff :
    prepare env file args = .error .help ↔ ∃ config, Grounds env file args config .help := by
  constructor
  · intro hhelp
    rcases settings_or_grounds_or_worded env file args with
      hunplanned | ⟨config, parsed, hgrounds⟩ | ⟨other, hother, hworded⟩
    · obtain ⟨fault, failure, hfault, hfailed⟩ := unplanned_iff.2 hunplanned
      obtain rfl := Except.error.inj (hfault.symm.trans hhelp)
      contradiction
    · cases parsed with
      | help => exact ⟨config, hgrounds⟩
      | options o extras =>
        rw [hgrounds.prepare_options] at hhelp
        simpa using fault_of_ofOptions hhelp
    · obtain rfl := Except.error.inj (hother.symm.trans hhelp)
      contradiction
  · rintro ⟨config, hgrounds⟩
    exact hgrounds.prepare_help

end Prepare

/-! ### Doing it -/

/-- The cities that a plan looks its places up in. -/
inductive Cities (root : Text) (files : Text → FileEntry) (reader : DocumentReader) (plan : Plan) :
    Catalog → Prop
  /-- No file is named. -/
  | builtIn (h : plan.citiesFile = none) : Cities root files reader plan Catalog.default
  /-- The file that is named is found and read. -/
  | read {file path : Text} {bytes : ByteArray} {catalog : Catalog}
      (named : plan.citiesFile = some file)
      (found : locate (m := Id) root files file = (path, .file bytes))
      (read : Catalog.ofBytes bytes reader = .ok catalog) :
      Cities root files reader plan (Catalog.default.overlay catalog)

/-- The two ends of the route of a plan. -/
def Ends (root : Text) (files : Text → FileEntry) (reader : DocumentReader) (plan : Plan)
    (start goal : GeoPoint Float) : Prop :=
  ∃ catalog, Cities root files reader plan catalog ∧ catalog.resolve plan.start = .ok start ∧
    catalog.resolve plan.goal = .ok goal

/-- The ways in which a plan fails without a word. -/
inductive Fails (root : Text) (files : Text → FileEntry) (reader : DocumentReader) (plan : Plan) :
    Prop
  /-- Under the name of the file of cities there is a folder. -/
  | folder {file path : Text} (named : plan.citiesFile = some file)
      (found : locate (m := Id) root files file = (path, .folder))
  /-- The file of cities is not read, and no entry of it is to blame. -/
  | cities {file path : Text} {bytes : ByteArray} (named : plan.citiesFile = some file)
      (found : locate (m := Id) root files file = (path, .file bytes))
      (unread : Catalog.Unread reader bytes)
  /-- The route has no answer.  With exact arithmetic there always is one, as
  `Route.exists_between` says, but nothing is known here of the sines of doubles. -/
  | route {start goal : GeoPoint Float} {fault : Fault Float}
      (ends : plan.Ends root files reader start goal)
      (noRoute : Route.between start goal plan.points plan.style plan.mode = .error fault)

section RunFrom

variable {plan : Plan} {root : Text} {files : Text → FileEntry} {reader : DocumentReader}

lemma Cities.exists_runFrom_eq {catalog : Catalog} (h : plan.Cities root files reader catalog) :
    ∃ events, plan.runFrom root files reader = plan.runWith catalog events := by
  unfold runFrom
  rcases h with hnone | ⟨hnamed, hfound, hread⟩
  · rw [hnone]
    exact ⟨_, rfl⟩
  · rw [hnamed]
    simp only [hfound, runWithFile, hread]
    exact ⟨_, rfl⟩

/-- Where no cities come of a plan, the run is worded or fails. -/
lemma cities_or_fails_or_worded (root : Text) (files : Text → FileEntry) (reader : DocumentReader)
    (plan : Plan) :
    (∃ catalog, plan.Cities root files reader catalog) ∨ plan.Fails root files reader ∨
      (plan.runFrom root files reader).outcome.Worded := by
  cases hnamed : plan.citiesFile with
  | none => exact Or.inl ⟨_, .builtIn hnamed⟩
  | some file =>
    rcases hfound : locate (m := Id) root files file with ⟨path, entry⟩
    have hrun : plan.runFrom root files reader = plan.runWithFile path entry reader := by
      unfold runFrom
      rw [hnamed]
      simp only [hfound]
    cases entry with
    | missing =>
      rw [hrun]
      exact Or.inr (Or.inr .stopped)
    | folder => exact Or.inr (Or.inl (.folder hnamed hfound))
    | file bytes =>
      cases hread : Catalog.ofBytes bytes reader with
      | ok catalog => exact Or.inl ⟨_, .read hnamed hfound hread⟩
      | error fault =>
        cases hmessage : fault.message? path with
        | none =>
          have hunread := (Catalog.unread_iff path).2 ⟨fault, hread, hmessage⟩
          exact Or.inr (Or.inl (.cities hnamed hfound hunread))
        | some message =>
          rw [hrun]
          simp only [runWithFile, hread, hmessage]
          exact Or.inr (Or.inr .stopped)

/-- The run of a plan with its two ends is that of its route. -/
lemma Ends.outcome_runFrom {start goal : GeoPoint Float}
    (h : plan.Ends root files reader start goal) :
    (plan.runFrom root files reader).outcome =
      match Route.between start goal plan.points plan.style plan.mode with
      | .error fault => .failed (.sphere fault)
      | .ok route => .printed (plan.document route.lines (plan.endMarkers start goal)) := by
  obtain ⟨catalog, hcities, hstart, hgoal⟩ := h
  obtain ⟨events, hrun⟩ := hcities.exists_runFrom_eq
  rw [hrun]
  simp only [runWith, hstart, hgoal, bind, Except.bind, pure, Except.pure]
  cases Route.between start goal plan.points plan.style plan.mode <;> rfl

lemma ends_or_worded {catalog : Catalog} (h : plan.Cities root files reader catalog) :
    (∃ start goal, plan.Ends root files reader start goal) ∨
      (plan.runFrom root files reader).outcome.Worded := by
  obtain ⟨events, hrun⟩ := h.exists_runFrom_eq
  rw [hrun, runWith]
  cases hstart : catalog.resolve plan.start with
  | error fault => exact Or.inr .stopped
  | ok start =>
    cases hgoal : catalog.resolve plan.goal with
    | error fault => exact Or.inr .stopped
    | ok goal => exact Or.inl ⟨start, goal, catalog, h, hstart, hgoal⟩

/-- A plan fails, or its run is worded, or a route between its ends is printed. -/
lemma fails_or_worded_or_printed (root : Text) (files : Text → FileEntry)
    (reader : DocumentReader) (plan : Plan) :
    plan.Fails root files reader ∨ (plan.runFrom root files reader).outcome.Worded ∨
      ∃ start goal route, plan.Ends root files reader start goal ∧
        Route.between start goal plan.points plan.style plan.mode = .ok route ∧
        (plan.runFrom root files reader).outcome =
          .printed (plan.document route.lines (plan.endMarkers start goal)) := by
  rcases cities_or_fails_or_worded root files reader plan with
    ⟨catalog, hcities⟩ | hfails | hworded
  · rcases ends_or_worded hcities with ⟨start, goal, hends⟩ | hworded
    · cases hroute : Route.between start goal plan.points plan.style plan.mode with
      | error fault => exact Or.inl (.route hends hroute)
      | ok route =>
        refine Or.inr (Or.inr ⟨start, goal, route, hends, hroute, ?_⟩)
        rw [hends.outcome_runFrom, hroute]
    · exact Or.inr (Or.inl hworded)
  · exact Or.inl hfails
  · exact Or.inr (Or.inl hworded)

/-- **A plan, and no word why it fails.** -/
lemma fails_iff :
    (∃ failure, (plan.runFrom root files reader).outcome = .failed failure) ↔
      plan.Fails root files reader := by
  constructor
  · rintro ⟨failure, hfailed⟩
    rcases fails_or_worded_or_printed root files reader plan with
      hfails | hworded | ⟨start, goal, route, -, -, hprinted⟩
    · exact hfails
    · rw [hfailed] at hworded
      contradiction
    · rw [hfailed] at hprinted
      contradiction
  · rintro (⟨hnamed, hfound⟩ | @⟨_, path, _, hnamed, hfound, hunread⟩ | ⟨hends, hroute⟩)
    · unfold runFrom
      rw [hnamed]
      simp only [hfound]
      exact ⟨_, rfl⟩
    · obtain ⟨fault, hread, hmessage⟩ := (Catalog.unread_iff path).1 hunread
      unfold runFrom
      rw [hnamed]
      simp only [hfound, runWithFile, hread, hmessage]
      exact ⟨_, rfl⟩
    · rw [hends.outcome_runFrom, hroute]
      exact ⟨_, rfl⟩

end RunFrom

end Plan

/-! ### Every run -/

/-- A run without a plan fails, or shows help, or is worded. -/
lemma PlanFault.outcome_cases (fault : PlanFault) :
    (∃ failure, fault.outcome = .failed failure) ∨ fault = .help ∨ fault.outcome.Worded := by
  cases fault with
  | help => exact Or.inr (Or.inl rfl)
  | config | tooFewPoints => exact Or.inr (Or.inr .stopped)
  | usage => exact Or.inr (Or.inr .misused)
  | settings | noLevel | unknownLevel | noPoints => exact Or.inl ⟨_, rfl⟩

lemma PlanFault.outcome_eq_help_iff {fault : PlanFault} :
    fault.outcome = .help ↔ fault = .help := by
  cases fault <;> simp [PlanFault.outcome]

lemma Outcome.Worded.output?_eq_none {outcome : Outcome} (h : outcome.Worded)
    (helpText : String) : outcome.output? helpText = none := by
  cases h <;> rfl

section Run

variable {root : Text} {files : Text → FileEntry} {env : Environment} {args : List Text}
  {reader : DocumentReader}

lemma run_of_error {fault : PlanFault}
    (h : Plan.prepare env (files settingsFile).bytes? args = .error fault) :
    (run (m := Id) root files env args reader).run = ⟨[], fault.outcome⟩ := by
  rw [run_eq, h]

lemma run_of_ok {plan : Plan}
    (h : Plan.prepare env (files settingsFile).bytes? args = .ok plan) :
    (run (m := Id) root files env args reader).run = plan.runFrom root files reader := by
  rw [run_eq, h]

lemma run_failed_iff :
    (∃ failure, (run (m := Id) root files env args reader).run.outcome = .failed failure) ↔
      Plan.Unplanned env (files settingsFile).bytes? args ∨
        ∃ plan, Plan.prepare env (files settingsFile).bytes? args = .ok plan ∧
          plan.Fails root files reader := by
  rw [← Plan.unplanned_iff]
  cases hprepared : Plan.prepare env (files settingsFile).bytes? args with
  | error fault => simp [run_of_error hprepared]
  | ok plan => simp [run_of_ok hprepared, Plan.fails_iff]

lemma run_help_iff :
    (run (m := Id) root files env args reader).run.outcome = .help ↔
      ∃ config, Plan.Grounds env (files settingsFile).bytes? args config .help := by
  rw [← Plan.prepare_help_iff]
  cases hprepared : Plan.prepare env (files settingsFile).bytes? args with
  | error fault => simp [run_of_error hprepared, PlanFault.outcome_eq_help_iff]
  | ok plan =>
    rw [run_of_ok hprepared]
    refine iff_of_false ?_ (by simp)
    intro hhelp
    rcases plan.fails_or_worded_or_printed root files reader with
      hfails | hworded | ⟨start, goal, route, -, -, hprinted⟩
    · obtain ⟨failure, hfailed⟩ := Plan.fails_iff.2 hfails
      rw [hhelp] at hfailed
      contradiction
    · rw [hhelp] at hworded
      contradiction
    · rw [hhelp] at hprinted
      contradiction

end Run

/-- **How a run ends.**  A run fails just when there comes no plan of it, or its plan fails, in one
of the ways that are listed.  Help is shown just when there are grounds for a plan and the arguments
ask for help.  Every other run prints one whole document, which is that of a route between the ends
of its plan, or ends with a message and prints nothing.  This is so however a file of cities is
read, and whatever the text is that explains the program. -/
theorem run_ends (root : Text) (files : Text → FileEntry) (env : Environment) (args : List Text)
    (reader : DocumentReader) (helpText : String) :
    let file := (files settingsFile).bytes?
    let outcome := (run (m := Id) root files env args reader).run.outcome
    ((∃ failure, outcome = .failed failure) ↔
      Plan.Unplanned env file args ∨
        ∃ plan, Plan.prepare env file args = .ok plan ∧ plan.Fails root files reader) ∧
    (outcome = .help ↔ ∃ config, Plan.Grounds env file args config .help) ∧
    ((∃ failure, outcome = .failed failure) ∧ outcome.output? helpText = none ∨
      outcome = .help ∧ outcome.output? helpText = some helpText ∨
      outcome.Worded ∧ outcome.output? helpText = none ∨
      ∃ plan start goal route, Plan.prepare env file args = .ok plan ∧
        plan.Ends root files reader start goal ∧
        Route.between start goal plan.points plan.style plan.mode = .ok route ∧
        outcome.output? helpText =
          some (Json.pretty (plan.document route.lines (plan.endMarkers start goal)))) := by
  intro file outcome
  refine ⟨run_failed_iff, run_help_iff, ?_⟩
  cases hprepared : Plan.prepare env file args with
  | error fault =>
    have houtcome : outcome = fault.outcome := congrArg Run.outcome (run_of_error hprepared)
    rw [houtcome]
    rcases fault.outcome_cases with ⟨failure, hfailed⟩ | rfl | hworded
    · rw [hfailed]
      exact Or.inl ⟨⟨failure, rfl⟩, rfl⟩
    · exact Or.inr (Or.inl ⟨rfl, rfl⟩)
    · exact Or.inr (Or.inr (Or.inl ⟨hworded, hworded.output?_eq_none helpText⟩))
  | ok plan =>
    have houtcome : outcome = (plan.runFrom root files reader).outcome :=
      congrArg Run.outcome (run_of_ok hprepared)
    rw [houtcome]
    rcases plan.fails_or_worded_or_printed root files reader with
      hfails | hworded | ⟨start, goal, route, hends, hroute, hprinted⟩
    · obtain ⟨failure, hfailed⟩ := Plan.fails_iff.2 hfails
      rw [hfailed]
      exact Or.inl ⟨⟨failure, rfl⟩, rfl⟩
    · exact Or.inr (Or.inr (Or.inl ⟨hworded, hworded.output?_eq_none helpText⟩))
    · rw [hprinted]
      exact Or.inr (Or.inr (Or.inr ⟨plan, start, goal, route, rfl, hends, hroute, rfl⟩))

/-- A log level that there is not: the run prints nothing, and says nothing. -/
theorem run_ends_at_unknown_level :
    let files : Text → FileEntry := fun _ => .missing
    let args : List Text := ["--from", "1,2", "--to", "3,4", "--log-level", "loud"]
    let outcome := (run (m := Id) "" files ⟨[]⟩ args Yaml.read).run.outcome
    outcome = .failed (.unknownLevel "LOUD") ∧ (∀ helpText, outcome.output? helpText = none) ∧
      ¬ outcome.Worded := by
  intro files args outcome
  have hprepared : Plan.prepare ⟨[]⟩ (files settingsFile).bytes? args =
      .error (.unknownLevel "LOUD") := rfl
  have houtcome : outcome = .failed (.unknownLevel "LOUD") :=
    congrArg Run.outcome (run_of_error hprepared)
  refine ⟨houtcome, fun helpText => by rw [houtcome]; rfl, ?_⟩
  rw [houtcome]
  intro hworded
  contradiction

end GreatCircle
