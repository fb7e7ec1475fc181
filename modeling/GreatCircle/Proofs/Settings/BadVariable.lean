/-
# Bad variables

Three of the variables that a configuration is read from can have a bad value: the number of steps,
the split mode and the width of lines.  An environment gives a configuration just if none of them
is bad, and otherwise the fault names the first bad one (`Config.ofEnvironment_outcome`).  White
space around the values of variables makes no difference, whether they are bad or not.
-/
import GreatCircle.Proofs.Decimal.NumeralForm
import GreatCircle.Proofs.Settings.ConfigReads

namespace GreatCircle

/-- The fault says of a variable what its value must be. -/
def ConfigFault.Names (fault : ConfigFault) (name : String) : Prop :=
  ∃ rest : Text, fault.message = name ++ " must be " ++ rest

lemma ConfigFault.names_of_message {fault : ConfigFault} {name : String} {middle tail : Text}
    (more : Text) (hmessage : fault.message = name ++ (middle ++ tail))
    (hmiddle : middle = " must be " ++ more) : fault.Names name := by
  refine ⟨more ++ tail, ?_⟩
  rw [hmessage, hmiddle, Text.append_assoc, Text.append_assoc]

namespace ConfigFault

lemma names_notInteger (name : String) (raw : Text) : (notInteger name raw).Names name :=
  names_of_message "an integer, got '" (by simp only [message, Text.append_assoc]; rfl) rfl

lemma names_tooFewPoints (n : ℤ) : (tooFewPoints n).Names variableNames.points :=
  names_of_message "at least 1, got " (by simp only [message, Text.append_assoc]; rfl) rfl

lemma names_badSplitMode (given : Text) : (badSplitMode given).Names variableNames.splitMode :=
  names_of_message "one of ('all', 'first'), got '"
    (by simp only [message, Text.append_assoc]; rfl) rfl

lemma names_notNumber (name : String) (raw : Text) : (notNumber name raw).Names name :=
  names_of_message "a number, got '" (by simp only [message, Text.append_assoc]; rfl) rfl

end ConfigFault

/-- White space may have been put around a value, if there is one. -/
inductive Padded : Option Text → Option Text → Prop
  | unset : Padded none none
  | set (raw : Text) (before after : Text.Blank) :
      Padded (some raw) (some (before.text ++ raw ++ after.text))

lemma Padded.map_strip {value padded : Option Text} (h : Padded value padded) :
    padded.map Text.strip = value.map Text.strip := by
  cases h with
  | unset => rfl
  | set raw before after => rw [Option.map_some, Option.map_some, Text.strip_padded]

namespace Config

variable {env padded : Environment}

/-- The number of steps is not set, blank, or a whole number of at least one. -/
def GoodPoints (env : Environment) : Prop :=
  ∀ raw, env.get? variableNames.points = some raw →
    raw.strip = "" ∨ ∃ n, 1 ≤ n ∧ Numeral.IsInteger raw.strip n

/-- The split mode is not set, or one of the two names. -/
def GoodSplitMode (env : Environment) : Prop :=
  ∀ raw, env.get? variableNames.splitMode = some raw →
    raw.strip.lower = "all" ∨ raw.strip.lower = "first"

/-- The width of lines is not set, blank, or a double. -/
def GoodStrokeWidth (env : Environment) : Prop :=
  ∀ raw, env.get? variableNames.strokeWidth = some raw →
    raw.strip = "" ∨ Numeral.IsDouble raw.strip

/-- The first bad variable. -/
inductive FirstBad (env : Environment) : String → Prop
  | points (bad : ¬GoodPoints env) : FirstBad env variableNames.points
  | splitMode (points : GoodPoints env) (bad : ¬GoodSplitMode env) :
      FirstBad env variableNames.splitMode
  | strokeWidth (points : GoodPoints env) (splitMode : GoodSplitMode env)
      (bad : ¬GoodStrokeWidth env) : FirstBad env variableNames.strokeWidth

/-! ### One variable -/

lemma filled?_eq_some_iff {name t : Text} :
    filled? env name = some t ↔ ∃ raw, env.get? name = some raw ∧ raw.strip = t ∧ t ≠ "" := by
  rw [filled?, Option.filter_eq_some_iff, Option.map_eq_some_iff, bne_iff_ne]
  constructor
  · rintro ⟨⟨raw, hraw, hstrip⟩, hne⟩
    exact ⟨raw, hraw, hstrip, hne⟩
  · rintro ⟨raw, hraw, hstrip, hne⟩
    exact ⟨⟨raw, hraw, hstrip⟩, hne⟩

/-- A value that is not blank counts without the white space around it. -/
lemma forall_filled?_iff {name : Text} {P : Text → Prop} :
    (∀ t, filled? env name = some t → P t) ↔
      ∀ raw, env.get? name = some raw → raw.strip = "" ∨ P raw.strip := by
  simp only [filled?_eq_some_iff]
  constructor
  · intro h raw hraw
    exact or_iff_not_imp_left.2 fun hne => h _ ⟨raw, hraw, rfl, hne⟩
  · rintro h t ⟨raw, hraw, rfl, hne⟩
    exact (h raw hraw).resolve_left hne

lemma strip_of_filled? {name t : Text} (h : filled? env name = some t) : t.strip = t := by
  obtain ⟨raw, -, rfl, -⟩ := filled?_eq_some_iff.1 h
  exact Text.strip_strip raw

lemma exists_readPoints_iff {default : StepCount} :
    (∃ points, readPoints env default = .ok points) ↔ GoodPoints env := by
  rw [GoodPoints, ← forall_filled?_iff (P := fun t => ∃ n, 1 ≤ n ∧ Numeral.IsInteger t n)]
  cases hfilled : filled? env variableNames.points with
  | none => simp [readPoints, hfilled]
  | some t =>
    simp only [Option.some_inj, forall_eq', readPoints, hfilled,
      ← Numeral.int?_eq_some_iff (strip_of_filled? hfilled)]
    cases hint : Numeral.int? t with
    | none => simp
    | some n =>
      have hpos : 1 ≤ n.toNat ↔ 1 ≤ n := by omega
      by_cases h : 1 ≤ n
      · simp [hpos, h]
      · simp [hpos, h]

lemma ofName?_eq_none_iff {name : Text} :
    SplitMode.ofName? name = none ↔ name ≠ "all" ∧ name ≠ "first" := by
  unfold SplitMode.ofName?
  split
  · rename_i hall
    simp [hall]
  · rename_i hall
    split
    · rename_i hfirst
      simp [hfirst]
    · rename_i hfirst
      simp [hall, hfirst]

lemma exists_readSplitMode_iff {default : SplitMode} :
    (∃ mode, readSplitMode env default = .ok mode) ↔ GoodSplitMode env := by
  rw [GoodSplitMode]
  cases hget : env.get? variableNames.splitMode with
  | none => simp [readSplitMode, hget]
  | some raw =>
    simp only [Option.some_inj, forall_eq', readSplitMode, hget]
    rw [← not_iff_not, not_or, ← ofName?_eq_none_iff]
    cases hname : SplitMode.ofName? raw.strip.lower with
    | none => simp
    | some mode => simp

lemma exists_readStrokeWidth_iff {default : Float} :
    (∃ width, readStrokeWidth env default = .ok width) ↔ GoodStrokeWidth env := by
  rw [GoodStrokeWidth, ← forall_filled?_iff]
  cases hfilled : filled? env variableNames.strokeWidth with
  | none => simp [readStrokeWidth, hfilled]
  | some t =>
    simp only [Option.some_inj, forall_eq', readStrokeWidth, hfilled,
      ← Numeral.isSome_float?_iff (strip_of_filled? hfilled)]
    cases hfloat : Numeral.float? t with
    | none => simp
    | some x => simp

/-! ### Faults -/

lemma names_of_readPoints {default : StepCount} {fault : ConfigFault}
    (h : readPoints env default = .error fault) : fault.Names variableNames.points := by
  unfold readPoints at h
  split at h
  · contradiction
  · split at h
    · obtain rfl := Except.error.inj h
      exact ConfigFault.names_notInteger _ _
    · split at h
      · contradiction
      · obtain rfl := Except.error.inj h
        exact ConfigFault.names_tooFewPoints _

lemma names_of_readSplitMode {default : SplitMode} {fault : ConfigFault}
    (h : readSplitMode env default = .error fault) : fault.Names variableNames.splitMode := by
  unfold readSplitMode at h
  split at h
  · contradiction
  · simp only at h
    split at h
    · contradiction
    · obtain rfl := Except.error.inj h
      exact ConfigFault.names_badSplitMode _

lemma names_of_readStrokeWidth {default : Float} {fault : ConfigFault}
    (h : readStrokeWidth env default = .error fault) : fault.Names variableNames.strokeWidth := by
  unfold readStrokeWidth at h
  split at h
  · contradiction
  · split at h
    · obtain rfl := Except.error.inj h
      exact ConfigFault.names_notNumber _ _
    · contradiction

/-! ### All variables -/

lemma exists_ofEnvironment_iff :
    (∃ config, ofEnvironment env = .ok config) ↔
      GoodPoints env ∧ GoodSplitMode env ∧ GoodStrokeWidth env := by
  constructor
  · rintro ⟨config, h⟩
    obtain ⟨points, hpoints, h⟩ := bind_eq_ok.1 h
    obtain ⟨mode, hmode, h⟩ := bind_eq_ok.1 h
    obtain ⟨width, hwidth, -⟩ := bind_eq_ok.1 h
    exact ⟨exists_readPoints_iff.1 ⟨points, hpoints⟩, exists_readSplitMode_iff.1 ⟨mode, hmode⟩,
      exists_readStrokeWidth_iff.1 ⟨width, hwidth⟩⟩
  · rintro ⟨hpoints, hmode, hwidth⟩
    obtain ⟨points, hpoints⟩ := exists_readPoints_iff.2 hpoints
    obtain ⟨mode, hmode⟩ := exists_readSplitMode_iff.2 hmode
    obtain ⟨width, hwidth⟩ := exists_readStrokeWidth_iff.2 hwidth
    exact ⟨_, bind_eq_ok.2 ⟨points, hpoints, bind_eq_ok.2 ⟨mode, hmode,
      bind_eq_ok.2 ⟨width, hwidth, rfl⟩⟩⟩⟩

lemma firstBad_of_error {fault : ConfigFault} (h : ofEnvironment env = .error fault) :
    ∃ name, FirstBad env name ∧ fault.Names name := by
  have hnotOk {β : Type} {x : Except ConfigFault β} {e : ConfigFault} (hx : x = .error e) :
      ¬∃ b, x = .ok b := by
    rintro ⟨b, hb⟩
    rw [hx] at hb
    contradiction
  obtain h | ⟨points, hpoints, h⟩ := bind_eq_error.1 h
  · exact ⟨_, .points (mt exists_readPoints_iff.2 (hnotOk h)), names_of_readPoints h⟩
  have hgoodPoints := exists_readPoints_iff.1 ⟨points, hpoints⟩
  obtain h | ⟨mode, hmode, h⟩ := bind_eq_error.1 h
  · exact ⟨_, .splitMode hgoodPoints (mt exists_readSplitMode_iff.2 (hnotOk h)),
      names_of_readSplitMode h⟩
  have hgoodMode := exists_readSplitMode_iff.1 ⟨mode, hmode⟩
  obtain h | ⟨width, hwidth, h⟩ := bind_eq_error.1 h
  · exact ⟨_, .strokeWidth hgoodPoints hgoodMode (mt exists_readStrokeWidth_iff.2 (hnotOk h)),
      names_of_readStrokeWidth h⟩
  · contradiction

/-- White space around a value is taken off before the value is read. -/
lemma ofEnvironment_padded (h : ∀ name, Padded (env.get? name) (padded.get? name)) :
    ofEnvironment padded = ofEnvironment env := by
  have hfilled (name : Text) : filled? padded name = filled? env name := by
    rw [filled?, filled?, (h name).map_strip]
  have hmode (default : SplitMode) : readSplitMode padded default = readSplitMode env default := by
    have hvalue := h variableNames.splitMode
    unfold readSplitMode
    generalize env.get? variableNames.splitMode = value at hvalue ⊢
    generalize padded.get? variableNames.splitMode = paddedValue at hvalue ⊢
    cases hvalue with
    | unset => rfl
    | set raw before after => simp only [Text.strip_padded]
  have hupper (name : Text) : (padded.get? name).map (fun raw => raw.strip.upper) =
      (env.get? name).map fun raw => raw.strip.upper := by
    have hstrip := congrArg (Option.map Text.upper) (h name).map_strip
    rwa [Option.map_map, Option.map_map] at hstrip
  simp only [ofEnvironment, readPoints, readStrokeWidth, hfilled, hmode, hupper,
    (h _).map_strip]

/-- **Which environments give a configuration.**  Those in which the number of steps, the split mode
and the width of lines are good; a good number of steps has no more digits than the limit.
Otherwise the fault names the first of them that is bad.  A configuration holds what the variables
say: at least one step, one of the two split modes and, if any, a file name that is not blank.
White space around the values of variables changes nothing. -/
theorem ofEnvironment_outcome (env : Environment) :
    ((∃ config, ofEnvironment env = .ok config) ↔
      GoodPoints env ∧ GoodSplitMode env ∧ GoodStrokeWidth env) ∧
    (¬(GoodPoints env ∧ GoodSplitMode env ∧ GoodStrokeWidth env) →
      ∃ fault name, ofEnvironment env = .error fault ∧ FirstBad env name ∧ fault.Names name) ∧
    (∀ config, ofEnvironment env = .ok config →
      config.Reads env ∧ 1 ≤ config.points.val ∧
      (config.splitMode.name = "all" ∨ config.splitMode.name = "first") ∧
      ∀ file, config.citiesFile = some file → file.strip ≠ "") ∧
    ∀ padded : Environment, (∀ name, Padded (env.get? name) (padded.get? name)) →
      ofEnvironment padded = ofEnvironment env := by
  refine ⟨exists_ofEnvironment_iff, ?_, ?_, fun padded => ofEnvironment_padded⟩
  · intro hbad
    cases h : ofEnvironment env with
    | ok config => exact absurd (exists_ofEnvironment_iff.1 ⟨config, h⟩) hbad
    | error fault =>
      obtain ⟨name, hfirst, hnames⟩ := firstBad_of_error h
      exact ⟨fault, name, rfl, hfirst, hnames⟩
  · intro config h
    have hreads := reads_of_ofEnvironment h
    refine ⟨hreads, config.points.pos, ?_, ?_⟩
    · cases config.splitMode with
      | all => exact .inl rfl
      | first => exact .inr rfl
    · intro file hfile
      rw [hreads.citiesFile] at hfile
      rw [strip_of_filled? hfile]
      obtain ⟨_, -, -, hne⟩ := filled?_eq_some_iff.1 hfile
      exact hne

end Config

end GreatCircle
