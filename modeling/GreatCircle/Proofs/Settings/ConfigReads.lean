/-
# What a configuration reads

`Config.Reads` says what a configuration takes from the variables of an environment, variable by
variable.  Every configuration that an environment gives is of this kind
(`Config.reads_of_ofEnvironment`), and only the values of variables count
(`Config.ofEnvironment_congr`).
-/
import GreatCircle.Proofs.Settings.LayeredEnvironment
import GreatCircle.Settings.Config

namespace GreatCircle

/-- A step after another succeeds only where the other has succeeded, with what that gave. -/
lemma bind_eq_ok {ε β γ : Type} {x : Except ε β} {f : β → Except ε γ} {c : γ} :
    x.bind f = .ok c ↔ ∃ b, x = .ok b ∧ f b = .ok c := by
  cases x <;> simp [Except.bind]

lemma bind_eq_error {ε β γ : Type} {x : Except ε β} {f : β → Except ε γ} {e : ε} :
    x.bind f = .error e ↔ x = .error e ∨ ∃ b, x = .ok b ∧ f b = .error e := by
  cases x <;> simp [Except.bind]

lemma map_eq_ok {ε β γ : Type} {x : Except ε β} {f : β → γ} {c : γ} :
    x.map f = .ok c ↔ ∃ b, x = .ok b ∧ f b = c := by
  cases x <;> simp [Except.map]

namespace Config

/-- What a configuration takes from the variables. -/
structure Reads (env : Environment) (config : Config) : Prop where
  points : (config.points.val : Int) =
    ((filled? env variableNames.points).bind Numeral.int?).getD 200
  splitMode : config.splitMode = .first ↔
    (env.get? variableNames.splitMode).map (fun raw => Text.lower (Text.strip raw)) =
      some ("first" : Text)
  citiesFile : config.citiesFile = filled? env variableNames.citiesFile
  stroke : config.stroke = ((env.get? variableNames.stroke).map Text.strip).getD "green"
  strokeWidth : config.strokeWidth =
    ((filled? env variableNames.strokeWidth).bind Numeral.float?).getD 60.0
  logLevel : config.logLevel =
    ((env.get? variableNames.logLevel).map fun raw => Text.upper (Text.strip raw)).getD "WARNING"

section Read

variable {env : Environment}

lemma readPoints_eq_ok {points default : StepCount} (h : readPoints env default = .ok points) :
    (points.val : Int) =
      ((filled? env variableNames.points).bind Numeral.int?).getD default.val := by
  unfold readPoints at h
  split at h
  · rename_i hnone
    rw [hnone, ← Except.ok.inj h]
    rfl
  · rename_i raw hraw
    split at h
    · contradiction
    · rename_i n hn
      split at h
      · rename_i hpos
        rw [hraw, ← Except.ok.inj h]
        simp only [Option.bind_some, hn, Option.getD_some]
        omega
      · contradiction

lemma ofName?_eq_first_iff {name : Text} :
    SplitMode.ofName? name = some .first ↔ name = "first" := by
  unfold SplitMode.ofName?
  split
  · rename_i hall
    rw [hall]
    decide
  · split
    · simpa
    · simpa

lemma readSplitMode_eq_ok {mode : SplitMode} (h : readSplitMode env .all = .ok mode) :
    mode = .first ↔
      (env.get? variableNames.splitMode).map (fun raw => Text.lower (Text.strip raw)) =
        some ("first" : Text) := by
  unfold readSplitMode at h
  split at h
  · rename_i hnone
    rw [hnone, ← Except.ok.inj h]
    decide
  · rename_i raw hraw
    rw [hraw, Option.map_some, Option.some_inj, ← ofName?_eq_first_iff]
    simp only at h
    split at h
    · rename_i found hfound
      rw [hfound, ← Except.ok.inj h, Option.some_inj]
    · contradiction

lemma readStrokeWidth_eq_ok {width default : Float}
    (h : readStrokeWidth env default = .ok width) :
    width = ((filled? env variableNames.strokeWidth).bind Numeral.float?).getD default := by
  unfold readStrokeWidth at h
  split at h
  · rename_i hnone
    rw [hnone, ← Except.ok.inj h]
    rfl
  · rename_i raw hraw
    split at h
    · contradiction
    · rename_i x hx
      rw [hraw, ← Except.ok.inj h, Option.bind_some, hx, Option.getD_some]

lemma reads_of_ofEnvironment {config : Config} (h : ofEnvironment env = .ok config) :
    config.Reads env := by
  obtain ⟨points, hpoints, h⟩ := bind_eq_ok.1 h
  obtain ⟨mode, hmode, h⟩ := bind_eq_ok.1 h
  obtain ⟨width, hwidth, h⟩ := bind_eq_ok.1 h
  obtain rfl := Except.ok.inj h
  exact ⟨readPoints_eq_ok hpoints, readSplitMode_eq_ok hmode, rfl, rfl,
    readStrokeWidth_eq_ok hwidth, rfl⟩

end Read

/-- A configuration depends on the values of the variables only. -/
lemma ofEnvironment_congr {env other : Environment} (h : ∀ name, env.get? name = other.get? name) :
    ofEnvironment env = ofEnvironment other := by
  simp only [ofEnvironment, readPoints, readSplitMode, readStrokeWidth, filled?, h]

end Config

end GreatCircle
