/-
# The environment that a file of settings leaves

A file of settings that is taken to its end leaves every variable with the value that it had, and a
variable without one with the value of the first line that assigns it.  Such a file changes nothing
when it is loaded again, and loading another one after it is loading the lines of both
(`Environment.load_ends`).  A file that is not taken to its end stops at a variable that cannot be
set, after all assignments before, and one that is missing or no text changes nothing at all.

`Environment.run` takes an environment through a number of steps, of which loading is one.  Whatever
the steps before, loading keeps the variables that have a value.
-/
import GreatCircle.Proofs.Settings.ConfigReads
import GreatCircle.Proofs.Settings.JoinedFiles

namespace GreatCircle

namespace Environment

/-! ### Setting what is not set yet -/

section Seed

variable {env after : Environment} {assignments rest : List (Text × Text)}

lemma seed_cons_of_ok {next : Environment} {name value : Text}
    (h : env.setDefault name value = .ok next) (rest : List (Text × Text)) :
    env.seed ((name, value) :: rest) = next.seed rest := by
  rw [seed, h]

lemma seed_cons_of_error {fault : VariableFault} {name value : Text}
    (h : env.setDefault name value = .error fault) (rest : List (Text × Text)) :
    env.seed ((name, value) :: rest) = (env, some fault) := by
  rw [seed, h]

/-- After assignments that could all be made, further ones go on from there. -/
lemma seed_append_of_seed (h : env.seed assignments = (after, none)) (rest : List (Text × Text)) :
    env.seed (assignments ++ rest) = after.seed rest := by
  induction assignments generalizing env with
  | nil =>
    obtain rfl := (Prod.mk.inj h).1
    rfl
  | cons a more ih =>
    obtain ⟨name, value⟩ := a
    rw [List.cons_append]
    cases hset : env.setDefault name value with
    | ok next =>
      rw [seed_cons_of_ok hset] at h ⊢
      exact ih h
    | error fault =>
      rw [seed_cons_of_error hset] at h
      exact absurd (Prod.mk.inj h).2 (by simp)

/-- After an assignment that cannot be made, further ones make no difference. -/
lemma seed_append_of_fault {fault : VariableFault}
    (h : env.seed assignments = (after, some fault)) (rest : List (Text × Text)) :
    env.seed (assignments ++ rest) = (after, some fault) := by
  induction assignments generalizing env with
  | nil => exact absurd (Prod.mk.inj h).2 (by simp)
  | cons a more ih =>
    obtain ⟨name, value⟩ := a
    rw [List.cons_append]
    cases hset : env.setDefault name value with
    | ok next =>
      rw [seed_cons_of_ok hset] at h ⊢
      exact ih h
    | error other =>
      rw [seed_cons_of_error hset] at h ⊢
      exact h

/-- Where all variables have values, nothing is set. -/
lemma seed_of_forall_isSome (h : ∀ a ∈ assignments, (env.get? a.1).isSome = true) :
    env.seed assignments = (env, none) := by
  induction assignments with
  | nil => rfl
  | cons a more ih =>
    obtain ⟨name, value⟩ := a
    obtain ⟨hfirst, hmore⟩ := List.forall_mem_cons.1 h
    obtain ⟨old, hold⟩ := Option.isSome_iff_exists.1 hfirst
    rw [seed_cons_of_ok (setDefault_of_some hold value)]
    exact ih hmore

section Plain

variable (hplain : ∀ a ∈ assignments, Plain a.1 a.2)
include hplain

lemma not_holdsNull_of_seed (h : env.seed assignments = (after, none)) {name value : Text}
    (hadds : env.Adds assignments name value) : ¬ HoldsNull name value := by
  intro hnull
  have hfault := seed_of_holdsNull hplain hadds hnull
  rw [h] at hfault
  contradiction

/-- What assignments that could all be made leave: they lie beneath the environment. -/
lemma get?_of_seed (h : env.seed assignments = (after, none)) (name : Text) :
    after.get? name = (env.above assignments).get? name := by
  obtain ⟨other, hother, hget⟩ :=
    env.exists_seed hplain fun _ _ => not_holdsNull_of_seed hplain h
  obtain rfl := (Prod.mk.inj (h.symm.trans hother)).1
  exact hget name

/-- Assignments that could all be made are in place, and making them again changes nothing. -/
lemma seed_of_seed (h : env.seed assignments = (after, none)) :
    after.seed assignments = (after, none) := by
  refine seed_of_forall_isSome fun a ha => ?_
  rw [get?_of_seed hplain h, get?_above, Option.isSome_or]
  have hlookup : (assignments.lookup a.1).isSome = true :=
    List.lookup_isSome_iff.2 ⟨a, ha, beq_self_eq_true a.1⟩
  rw [hlookup, Bool.or_true]

/-- Assignments that could not all be made stop at one with a null character in it.  Those before it
are made, and its variable has no value. -/
lemma exists_of_seed_fault {fault : VariableFault}
    (h : env.seed assignments = (after, some fault)) :
    ∃ before name value rest, assignments = before ++ (name, value) :: rest ∧
      env.seed before = (after, none) ∧ after.get? name = none ∧ HoldsNull name value ∧
      fault = .nullCharacter := by
  induction assignments generalizing env with
  | nil => exact absurd (Prod.mk.inj h).2 (by simp)
  | cons a more ih =>
    obtain ⟨name, value⟩ := a
    obtain ⟨hfirst, hmore⟩ := List.forall_mem_cons.1 hplain
    -- an assignment that is made stands before the one that is not
    have hnext (next : Environment) (hset : env.setDefault name value = .ok next) :
        ∃ before other x rest, (name, value) :: more = before ++ (other, x) :: rest ∧
          env.seed before = (after, none) ∧ after.get? other = none ∧ HoldsNull other x ∧
          fault = .nullCharacter := by
      rw [seed_cons_of_ok hset] at h
      obtain ⟨before, other, x, rest, rfl, hbefore, hstop⟩ := ih hmore h
      refine ⟨(name, value) :: before, other, x, rest, rfl, ?_, hstop⟩
      rw [seed_cons_of_ok hset]
      exact hbefore
    cases hget : env.get? name with
    | some old => exact hnext env (setDefault_of_some hget value)
    | none =>
      by_cases hnull : HoldsNull name value
      · have hset : env.setDefault name value = .error .nullCharacter := by
          rw [setDefault_of_none hget, hfirst.set_eq_error hnull]
        rw [seed_cons_of_error hset] at h
        obtain ⟨rfl, hfault⟩ := Prod.mk.inj h
        exact ⟨[], name, value, more, rfl, rfl, hget, hnull, (Option.some.inj hfault).symm⟩
      · have hset : env.setDefault name value = .ok (env.assign name value) := by
          rw [setDefault_of_none hget, hfirst.set_eq_ok hnull]
        exact hnext _ hset

/-- Whatever comes of it, a variable with a value keeps it. -/
lemma get?_seed_of_get? {name value : Text} (h : env.get? name = some value) :
    (env.seed assignments).1.get? name = some value := by
  have habove (before : List (Text × Text)) : (env.above before).get? name = some value := by
    rw [get?_above, h, Option.some_or]
  cases hseed : env.seed assignments with
  | mk after fault =>
    cases fault with
    | none => rw [get?_of_seed hplain hseed, habove]
    | some fault =>
      obtain ⟨before, _, _, rest, rfl, hbefore, -⟩ := exists_of_seed_fault hplain hseed
      have hplainBefore : ∀ a ∈ before, Plain a.1 a.2 :=
        fun a ha => hplain a (List.mem_append_left _ ha)
      rw [get?_of_seed hplainBefore hbefore, habove]

end Plain

end Seed

end Environment

/-! ### Loading -/

namespace EnvFile

/-- The first line that assigns a variable gives it a value. -/
inductive FirstAssigns (text : List Char) (name value : Text) : Prop
  | intro {before after : List (List Char)} {line : List Char}
      (lines : Text.splitOn '\n' text = before ++ line :: after)
      (assigns : parseLine? (Text.ofChars line) = some (name, value))
      (first : ∀ other ∈ before, ∀ v, parseLine? (Text.ofChars other) ≠ some (name, v))

lemma lookup_parse_eq_some_iff {text : List Char} {name value : Text} :
    (parse text).lookup name = some value ↔ FirstAssigns text name value := by
  rw [List.lookup_eq_some_iff]
  constructor
  · rintro ⟨assigned, rest, hparse, hother⟩
    obtain ⟨start, tail, hlines, hstart, htail⟩ := List.filterMap_eq_append_iff.1 hparse
    obtain ⟨idle, line, after, rfl, hidle, hline, -⟩ := List.filterMap_eq_cons_iff.1 htail
    rw [← List.append_assoc] at hlines
    refine ⟨hlines, hline, fun other hmem v hassigns => ?_⟩
    rcases List.mem_append.1 hmem with hmem | hmem
    · have hfirst : (name, v) ∈ assigned := hstart ▸ List.mem_filterMap.2 ⟨other, hmem, hassigns⟩
      exact absurd (hother _ hfirst) (by simp)
    · rw [hidle other hmem] at hassigns
      contradiction
  · rintro @⟨before, after, line, hlines, hline, hfirst⟩
    refine ⟨before.filterMap fun l => parseLine? (Text.ofChars l),
      after.filterMap fun l => parseLine? (Text.ofChars l), ?_, ?_⟩
    · rw [parse, hlines, List.filterMap_append]
      exact congrArg _ (List.filterMap_cons_some hline)
    · rintro ⟨other, v⟩ hmem
      obtain ⟨l, hl, hassigns⟩ := List.mem_filterMap.1 hmem
      have hne : name ≠ other := by
        rintro rfl
        exact hfirst l hl v hassigns
      simpa using hne

end EnvFile

namespace Environment

section Load

variable {env after : Environment} {bytes next : ByteArray} {text : List Char}

lemma load_eq_none_iff (htext : Text.ofBytes? bytes = some text) :
    env.load (some bytes) = (after, none) ↔ env.seed (EnvFile.parse text) = (after, none) := by
  simp only [load, htext]
  cases env.seed (EnvFile.parse text) with
  | mk other fault => cases fault <;> simp

lemma load_eq_some_iff (htext : Text.ofBytes? bytes = some text) {fault : EnvFile.LoadFault} :
    env.load (some bytes) = (after, some fault) ↔
      ∃ f, env.seed (EnvFile.parse text) = (after, some f) ∧ fault = .variable f := by
  simp only [load, htext]
  cases env.seed (EnvFile.parse text) with
  | mk other found =>
    cases found with
    | none => simp
    | some f =>
      constructor
      · intro h
        obtain ⟨rfl, hfault⟩ := Prod.mk.inj h
        exact ⟨f, rfl, (Option.some.inj hfault).symm⟩
      · rintro ⟨g, hseed, rfl⟩
        obtain ⟨rfl, hfault⟩ := Prod.mk.inj hseed
        obtain rfl := Option.some.inj hfault
        rfl

/-- A file is loaded to its end just if no variable that it adds holds a null character. -/
lemma exists_load_iff (htext : Text.ofBytes? bytes = some text) :
    (∃ after, env.load (some bytes) = (after, none)) ↔
      ∀ name value, env.Adds (EnvFile.parse text) name value → ¬ HoldsNull name value := by
  constructor
  · rintro ⟨after, hload⟩ name value
    exact not_holdsNull_of_seed (fun a => EnvFile.plain_of_mem_parse)
      ((load_eq_none_iff htext).1 hload)
  · intro hnull
    have hfile : EnvFile.text? (some bytes) = some text := htext
    obtain ⟨after, hload, -⟩ := exists_load_of_adds hfile hnull
    exact ⟨after, hload⟩

/-- What a file leaves that was loaded to its end. -/
lemma get?_of_load (htext : Text.ofBytes? bytes = some text)
    (h : env.load (some bytes) = (after, none)) {name value : Text} :
    after.get? name = some value ↔ env.get? name = some value ∨
      env.get? name = none ∧ EnvFile.FirstAssigns text name value := by
  rw [load_eq_none_iff htext] at h
  rw [get?_of_seed (fun a => EnvFile.plain_of_mem_parse) h, get?_above, Option.or_eq_some_iff,
    EnvFile.lookup_parse_eq_some_iff]

/-- A file that was loaded to its end has nothing to add. -/
lemma load_of_load (htext : Text.ofBytes? bytes = some text)
    (h : env.load (some bytes) = (after, none)) : after.load (some bytes) = (after, none) := by
  rw [load_eq_none_iff htext] at h ⊢
  exact seed_of_seed (fun a => EnvFile.plain_of_mem_parse) h

/-- Loading a file after one that was loaded to its end is loading the lines of both. -/
lemma load_followedBy (htext : Text.ofBytes? bytes = some text)
    (h : env.load (some bytes) = (after, none)) {more : List Char}
    (hmore : Text.ofBytes? next = some more) :
    env.load (some (EnvFile.followedBy bytes next)) = after.load (some next) := by
  obtain ⟨whole, hwhole, hparse⟩ := EnvFile.exists_text_followedBy htext hmore
  rw [load_eq_none_iff htext] at h
  simp only [load, hwhole, hmore, hparse, seed_append_of_seed h]

/-- A file that is not loaded to its end stops the loading of the lines that follow as well. -/
lemma load_followedBy_of_fault (htext : Text.ofBytes? bytes = some text)
    {fault : EnvFile.LoadFault} (h : env.load (some bytes) = (after, some fault))
    {more : List Char} (hmore : Text.ofBytes? next = some more) :
    env.load (some (EnvFile.followedBy bytes next)) = (after, some fault) := by
  obtain ⟨whole, hwhole, hparse⟩ := EnvFile.exists_text_followedBy htext hmore
  obtain ⟨f, hseed, rfl⟩ := (load_eq_some_iff htext).1 h
  refine (load_eq_some_iff hwhole).2 ⟨f, ?_, rfl⟩
  rw [hparse, seed_append_of_fault hseed]

/-- What a file leaves that could not be loaded to its end.  There is an assignment with a null
character, to a variable without a value; just the assignments before it have been made, and none of
these adds a null character. -/
inductive StoppedAt (env : Environment) (text : List Char) (after : Environment) : Prop
  | intro {before rest : List (Text × Text)} {name value : Text}
      (assignments : EnvFile.parse text = before ++ (name, value) :: rest)
      (holdsNull : HoldsNull name value) (notSet : after.get? name = none)
      (made : ∀ other, after.get? other = (env.above before).get? other)
      (madeAll : ∀ other x, env.Adds before other x → ¬ HoldsNull other x)

/-- A file that could not be loaded to its end. -/
lemma stoppedAt_of_load (htext : Text.ofBytes? bytes = some text) {fault : EnvFile.LoadFault}
    (h : env.load (some bytes) = (after, some fault)) :
    env.StoppedAt text after ∧ fault = .variable .nullCharacter := by
  obtain ⟨f, hseed, rfl⟩ := (load_eq_some_iff htext).1 h
  have hplain : ∀ a ∈ EnvFile.parse text, Plain a.1 a.2 := fun a => EnvFile.plain_of_mem_parse
  obtain ⟨before, name, value, rest, hparse, hbefore, hunset, hnull, rfl⟩ :=
    exists_of_seed_fault hplain hseed
  have hplainBefore : ∀ a ∈ before, Plain a.1 a.2 := by
    intro a ha
    refine hplain a ?_
    rw [hparse]
    exact List.mem_append_left _ ha
  exact ⟨⟨hparse, hnull, hunset, get?_of_seed hplainBefore hbefore,
    fun _ _ => not_holdsNull_of_seed hplainBefore hbefore⟩, rfl⟩

/-- Loading keeps the value of every variable that has one. -/
lemma get?_load_of_get? (file : Option ByteArray) {name value : Text}
    (h : env.get? name = some value) : (env.load file).1.get? name = some value := by
  cases file with
  | none => exact h
  | some bytes =>
    cases htext : Text.ofBytes? bytes with
    | none =>
      have hfile : EnvFile.text? (some bytes) = none := htext
      rw [load_of_not_text hfile]
      exact h
    | some text =>
      simp only [load, htext]
      exact get?_seed_of_get? (fun a => EnvFile.plain_of_mem_parse) h

end Load

/-! ### Runs -/

/-- A step that changes an environment. -/
inductive Step where
  /-- A variable is set. -/
  | set (name value : Text)
  /-- A variable is taken away. -/
  | unset (name : Text)
  /-- A file of settings is loaded. -/
  | load (file : Option ByteArray)

/-- The environment after a step.  A variable that cannot be set stays as it is, and a file leaves
what it has set before it stopped. -/
def step (env : Environment) : Step → Environment
  | .set name value => (env.set name value).toOption.getD env
  | .unset name => (env.remove name).toOption.getD env
  | .load file => (env.load file).1

/-- The environment after a number of steps. -/
def run (env : Environment) (steps : List Step) : Environment := steps.foldl step env

/-- The step sets a variable or takes it away. -/
def Step.Concerns (name : Text) : Step → Prop
  | .set other _ | .unset other => storedText other = .ok name
  | .load _ => False

section Run

variable {env : Environment} {name value : Text}

lemma exists_of_set_eq_ok {next : Environment} {other x : Text} (h : env.set other x = .ok next) :
    ∃ name value, storedText other = .ok name ∧ next = env.assign name value := by
  obtain ⟨name, hname, h⟩ := bind_eq_ok.1 h
  obtain ⟨value, -, h⟩ := bind_eq_ok.1 h
  cases hfault : fault? name value with
  | some fault =>
    rw [hfault] at h
    contradiction
  | none =>
    rw [hfault] at h
    exact ⟨name, value, hname, (Except.ok.inj h).symm⟩

/-- A step that does not concern a variable with a value leaves it that value. -/
lemma get?_step_of_not_concerns {s : Step} (hs : ¬ s.Concerns name)
    (h : env.get? name = some value) : (env.step s).get? name = some value := by
  cases s with
  | set other x =>
    rw [step]
    cases hset : env.set other x with
    | error fault => exact h
    | ok next =>
      obtain ⟨stored, y, hstored, rfl⟩ := exists_of_set_eq_ok hset
      have hne : name ≠ stored := by
        rintro rfl
        exact hs hstored
      change (env.assign stored y).get? name = some value
      rwa [get?_assign, if_neg hne]
  | unset other =>
    rw [step]
    cases hremove : env.remove other with
    | error fault => exact h
    | ok next =>
      obtain ⟨stored, hstored, hnext⟩ := bind_eq_ok.1 hremove
      obtain rfl := Except.ok.inj hnext
      have hne : name ≠ stored := by
        rintro rfl
        exact hs hstored
      change (env.unset stored).get? name = some value
      rwa [get?_unset, if_neg hne]
  | load file => exact get?_load_of_get? file h

/-- A variable with a value keeps it as long as no step sets the variable or takes it away, whatever
is loaded meanwhile. -/
lemma get?_run_of_not_concerns {steps : List Step} (hsteps : ∀ s ∈ steps, ¬ s.Concerns name)
    (h : env.get? name = some value) : (env.run steps).get? name = some value := by
  induction steps generalizing env with
  | nil => exact h
  | cons s more ih =>
    obtain ⟨hfirst, hmore⟩ := List.forall_mem_cons.1 hsteps
    exact ih hmore (get?_step_of_not_concerns hfirst h)

lemma run_append (env : Environment) (steps more : List Step) :
    env.run (steps ++ more) = (env.run steps).run more := List.foldl_append

end Run

/-- **What loading leaves.**  A file that is missing or no text changes nothing.  A file that is
loaded to its end gives every variable without a value that of the first line that assigns it and
changes nothing else, so that loading it again has no effect, and loading another file after it
comes to loading the lines of both.  A file stops only at an assignment with a null character, after
those before it.  And in a run of steps, whatever they are, loading takes no value away. -/
theorem load_ends (env : Environment) :
    env.load none = (env, none) ∧
    (∀ bytes, Text.ofBytes? bytes = none → env.load (some bytes) = (env, some .notText)) ∧
    (∀ bytes text, Text.ofBytes? bytes = some text →
      ((∃ after, env.load (some bytes) = (after, none)) ↔
        ∀ name value, env.Adds (EnvFile.parse text) name value → ¬ HoldsNull name value) ∧
      (∀ after, env.load (some bytes) = (after, none) →
        (∀ name value, after.get? name = some value ↔ env.get? name = some value ∨
          env.get? name = none ∧ EnvFile.FirstAssigns text name value) ∧
        after.load (some bytes) = (after, none) ∧
        ∀ next more, Text.ofBytes? next = some more →
          env.load (some (EnvFile.followedBy bytes next)) = after.load (some next)) ∧
      ∀ after fault, env.load (some bytes) = (after, some fault) →
        fault = .variable .nullCharacter ∧ env.StoppedAt text after ∧
        ∀ next more, Text.ofBytes? next = some more →
          env.load (some (EnvFile.followedBy bytes next)) = (after, some fault)) ∧
    (∀ steps name value, (∀ s ∈ steps, ¬ Step.Concerns name s) → env.get? name = some value →
      (env.run steps).get? name = some value) ∧
    ∀ steps file name value, (env.run steps).get? name = some value →
      (env.run (steps ++ [.load file])).get? name = some value := by
  refine ⟨rfl, fun bytes htext => ?_, fun bytes text htext => ⟨exists_load_iff htext, ?_, ?_⟩,
    fun steps name value => get?_run_of_not_concerns, fun steps file name value hvalue => ?_⟩
  · have hfile : EnvFile.text? (some bytes) = none := htext
    exact load_of_not_text hfile
  · intro after hload
    exact ⟨fun name value => get?_of_load htext hload, load_of_load htext hload,
      fun next more => load_followedBy htext hload⟩
  · intro after fault hload
    obtain ⟨hstopped, hfault⟩ := stoppedAt_of_load htext hload
    exact ⟨hfault, hstopped, fun next more => load_followedBy_of_fault htext hload⟩
  · rw [run_append]
    exact get?_load_of_get? file hvalue

end Environment

end GreatCircle
