/-
# A file of settings beneath an environment

`Environment.above` lays assignments beneath an environment: a variable has its value there, and
where it has none, that of its first assignment.  Reading a file of settings comes to just this
(`Environment.exists_load_of_adds`), unless a variable that the file adds holds a null character,
where it stops (`Environment.load_of_holdsNull`).  Nothing else that a line assigns can fail
(`EnvFile.plain_of_mem_parse`).
-/
import GreatCircle.Proofs.Text.Trim
import GreatCircle.Settings.EnvFile

namespace GreatCircle

/-! ### What a line assigns -/

namespace Text

lemma splitOn_eq_listSplitOn {α : Type} [DecidableEq α] (mark : α) (xs : List α) :
    splitOn mark xs = xs.splitOn mark := by
  induction xs with
  | nil => rfl
  | cons c rest ih =>
    rw [List.splitOn_cons_eq_if_modifyHead, splitOn, ih]
    by_cases hc : c = mark
    · simp [hc]
    · rw [if_neg hc, if_neg (by simpa using hc)]
      cases hrest : rest.splitOn mark with
      | nil => exact absurd hrest (List.splitOn_ne_nil mark rest)
      | cons piece more => rfl

lemma mem_of_mem_splitOn {α : Type} [DecidableEq α] {mark : α} {xs piece : List α}
    (h : piece ∈ splitOn mark xs) : piece ⊆ xs := by
  induction xs generalizing piece with
  | nil =>
    rw [splitOn, List.mem_singleton] at h
    rw [h]
    exact List.nil_subset _
  | cons c rest ih =>
    unfold splitOn at h
    split at h
    · rcases List.mem_cons.1 h with rfl | hrest
      · exact List.nil_subset _
      · exact List.Subset.trans (ih hrest) (List.subset_cons_self c rest)
    · split at h
      · rename_i first more heq
        rcases List.mem_cons.1 h with rfl | hmore
        · exact List.cons_subset_cons c (ih (heq ▸ List.mem_cons_self))
        · have hpiece := ih (heq ▸ List.mem_cons_of_mem first hmore)
          exact List.Subset.trans hpiece (List.subset_cons_self c rest)
      · rename_i heq
        exact absurd heq (splitOn_ne_nil mark rest)

/-- What comes before a mark and after it: the first holds no mark, and both are of the text. -/
lemma cutAt?_eq_some {α : Type} [DecidableEq α] {mark : α} {xs before after : List α}
    (h : cutAt? mark xs = some (before, after)) :
    mark ∉ before ∧ before ⊆ xs ∧ after ⊆ xs := by
  unfold cutAt? at h
  split at h
  · contradiction
  · rename_i c rest heq
    cases h
    refine ⟨fun hmark => ?_, List.takeWhile_subset _, ?_⟩
    · simpa using List.mem_takeWhile_imp hmark
    · intro x hx
      exact List.dropWhile_subset _ (by rw [heq]; exact List.mem_cons_of_mem _ hx)

/-- A text without halves is stored as it is. -/
lemma stored_eq {t : Text} (h : ∀ c ∈ t.points, c.isHalf = false) : t.stored = .ok t := by
  have hany : t.points.any CodePoint.isHalf = false := List.any_eq_false.2 fun c hc => by
    rw [h c hc]
    exact Bool.false_ne_true
  rw [stored, hany]
  rfl

end Text

namespace EnvFile

lemma dropExport_subset (text : List CodePoint) : dropExport text ⊆ text := by
  intro c hc
  simp only [dropExport] at hc
  split at hc
  · exact List.drop_subset 7 text (List.dropWhile_subset _ hc)
  · exact hc

/-- The name that a line assigns to is not blank and holds no equals sign; name and value are parts
of the line. -/
lemma parseLine?_eq_some {line name value : Text} (h : parseLine? line = some (name, value)) :
    name ≠ "" ∧ CodePoint.ofChar '=' ∉ name.points ∧ name.points ⊆ line.points ∧
      value.points ⊆ line.points := by
  have htext := List.Subset.trans (dropExport_subset line.strip.points) line.strip_subset
  unfold parseLine? at h
  simp only at h
  split at h
  · contradiction
  · split at h
    · rename_i before after hcut
      obtain ⟨hmark, hbefore, hafter⟩ := Text.cutAt?_eq_some hcut
      split at h
      · contradiction
      · rename_i hname
        cases h
        refine ⟨?_, fun hmem => hmark (Text.strip_subset _ hmem), ?_, ?_⟩
        · intro hblank
          rw [hblank] at hname
          exact hname rfl
        · exact List.Subset.trans (Text.strip_subset _) (List.Subset.trans hbefore htext)
        · have hstripped := List.Subset.trans (Text.strip_subset _) (List.Subset.trans hafter htext)
          exact List.Subset.trans (Text.trim_subset _ _) hstripped
    · contradiction

/-- The text of a file of settings.  A file that is not there is as good as an empty one. -/
def text? : Option ByteArray → Option (List Char)
  | none => some []
  | some bytes => Text.ofBytes? bytes

end EnvFile

/-! ### Assignments beneath an environment -/

namespace Environment

/-- The environment with assignments beneath it: the first of a variable counts, and only where the
variable has no value already. -/
def above (env : Environment) (assignments : List (Text × Text)) : Environment :=
  ⟨env.entries ++ assignments⟩

@[simp] lemma get?_above (env : Environment) (assignments : List (Text × Text)) (name : Text) :
    (env.above assignments).get? name = (env.get? name).or (assignments.lookup name) :=
  List.lookup_append

/-- The assignments give a value to a variable that has none yet. -/
def Adds (env : Environment) (assignments : List (Text × Text)) (name value : Text) : Prop :=
  env.get? name = none ∧ assignments.lookup name = some value

section Adds

variable {env : Environment} {assignments : List (Text × Text)} {first old name value : Text}

lemma Adds.mem (h : env.Adds assignments name value) : (name, value) ∈ assignments := by
  obtain ⟨-, hlookup⟩ := h
  rw [List.lookup_eq_some_iff] at hlookup
  obtain ⟨before, after, rfl, -⟩ := hlookup
  simp

/-- An assignment to a variable that has a value adds nothing. -/
lemma adds_cons_of_some (h : env.get? first = some old) (other : Text) :
    env.Adds ((first, other) :: assignments) name value ↔ env.Adds assignments name value := by
  unfold Adds
  rw [List.lookup_cons]
  by_cases hname : name = first
  · simp [hname, h]
  · rw [beq_eq_false_iff_ne.2 hname]

/-- An assignment to a variable without a value is added, and hides those that follow. -/
lemma adds_cons_of_none (h : env.get? first = none) (other : Text) :
    env.Adds ((first, other) :: assignments) name value ↔
      name = first ∧ value = other ∨ (env.assign first other).Adds assignments name value := by
  unfold Adds
  rw [List.lookup_cons, get?_assign]
  by_cases hname : name = first
  · simp [hname, h, eq_comm]
  · rw [beq_eq_false_iff_ne.2 hname]
    simp [hname]

end Adds

/-- A null character is in the name or in the value. -/
def HoldsNull (name value : Text) : Prop :=
  CodePoint.ofChar '\x00' ∈ name.points ∨ CodePoint.ofChar '\x00' ∈ value.points

/-- A variable is set to a value, and has just this value then, unless there is a null character in
the way. -/
structure Plain (name value : Text) : Prop where
  storedName : storedText name = .ok name
  storedValue : storedText value = .ok value
  noEquals : CodePoint.ofChar '=' ∉ name.points
  notBlank : name ≠ ""

section Plain

variable {name value : Text} (h : Plain name value)
include h

lemma Plain.set_eq_ok (hnull : ¬ HoldsNull name value) (env : Environment) :
    env.set name value = .ok (env.assign name value) := by
  obtain ⟨hname, hvalue, hequals, hblank⟩ := h
  have hfault : fault? name value = none := by
    rw [HoldsNull, not_or] at hnull
    simp only [fault?, List.contains_eq_mem]
    simp [hnull.1, hnull.2, hequals, hblank]
  simp only [set, hname, hvalue, bind, Except.bind, hfault]
  rfl

lemma Plain.set_eq_error (hnull : HoldsNull name value) (env : Environment) :
    env.set name value = .error .nullCharacter := by
  obtain ⟨hname, hvalue, -, -⟩ := h
  have hfault : fault? name value = some .nullCharacter := by
    rw [HoldsNull] at hnull
    simp only [fault?, List.contains_eq_mem]
    rw [if_pos (by simpa using hnull)]
  simp only [set, hname, hvalue, bind, Except.bind, hfault]
  rfl

end Plain

section Seed

variable {assignments : List (Text × Text)}

lemma setDefault_of_some {env : Environment} {name old : Text} (h : env.get? name = some old)
    (value : Text) : env.setDefault name value = .ok env := by
  rw [setDefault, h]
  rfl

lemma setDefault_of_none {env : Environment} {name : Text} (h : env.get? name = none)
    (value : Text) : env.setDefault name value = env.set name value := by
  rw [setDefault, h]
  rfl

/-- Setting what is not set yet, assignment by assignment, lays the assignments beneath. -/
lemma exists_seed (env : Environment) (hplain : ∀ a ∈ assignments, Plain a.1 a.2)
    (hnull : ∀ name value, env.Adds assignments name value → ¬ HoldsNull name value) :
    ∃ after, env.seed assignments = (after, none) ∧
      ∀ name, after.get? name = (env.above assignments).get? name := by
  induction assignments generalizing env with
  | nil => exact ⟨env, rfl, fun name => by simp⟩
  | cons a rest ih =>
    obtain ⟨name, value⟩ := a
    have hrest : ∀ b ∈ rest, Plain b.1 b.2 := fun b hb => hplain b (List.mem_cons_of_mem _ hb)
    cases hset : env.get? name with
    | some old =>
      -- the variable has a value, and keeps it
      obtain ⟨after, hafter, hget⟩ := ih env hrest fun other x hadds =>
        hnull other x ((adds_cons_of_some hset value).2 hadds)
      refine ⟨after, by rw [seed, setDefault_of_some hset]; exact hafter, fun other => ?_⟩
      rw [hget, get?_above, get?_above, List.lookup_cons]
      by_cases hother : other = name
      · rw [hother, hset, Option.some_or, Option.some_or]
      · rw [beq_eq_false_iff_ne.2 hother]
    | none =>
      have hadded := hnull name value ((adds_cons_of_none hset value).2 (Or.inl ⟨rfl, rfl⟩))
      have hassigned : env.setDefault name value = .ok (env.assign name value) := by
        rw [setDefault_of_none hset, (hplain (name, value) List.mem_cons_self).set_eq_ok hadded]
      obtain ⟨after, hafter, hget⟩ := ih (env.assign name value) hrest fun other x hadds =>
        hnull other x ((adds_cons_of_none hset value).2 (Or.inr hadds))
      refine ⟨after, by rw [seed, hassigned]; exact hafter, fun other => ?_⟩
      rw [hget, get?_above, get?_above, get?_assign, List.lookup_cons]
      by_cases hother : other = name
      · simp [hother, hset]
      · rw [if_neg hother, beq_eq_false_iff_ne.2 hother]

/-- A null character in what is added ends it. -/
lemma seed_of_holdsNull {env : Environment} (hplain : ∀ a ∈ assignments, Plain a.1 a.2)
    {name value : Text} (hadds : env.Adds assignments name value) (hnull : HoldsNull name value) :
    (env.seed assignments).2 = some .nullCharacter := by
  induction assignments generalizing env with
  | nil => exact absurd hadds.mem (by simp)
  | cons a rest ih =>
    obtain ⟨first, other⟩ := a
    have hfirst : Plain first other := hplain (first, other) List.mem_cons_self
    have hrest : ∀ b ∈ rest, Plain b.1 b.2 := fun b hb => hplain b (List.mem_cons_of_mem _ hb)
    cases hset : env.get? first with
    | some old =>
      rw [seed, setDefault_of_some hset]
      exact ih hrest ((adds_cons_of_some hset other).1 hadds)
    | none =>
      rw [seed, setDefault_of_none hset]
      by_cases hbad : HoldsNull first other
      · rw [hfirst.set_eq_error hbad]
      · rw [hfirst.set_eq_ok hbad]
        rcases (adds_cons_of_none hset other).1 hadds with ⟨rfl, rfl⟩ | hlater
        · exact absurd hnull hbad
        · exact ih hrest hlater

end Seed

end Environment

namespace EnvFile

section Parse

variable {text : List Char} {a : Text × Text} (h : a ∈ parse text)
include h

/-- Name and value of an assignment are made of characters of the text. -/
lemma exists_char_of_mem_parse {c : CodePoint} (hc : c ∈ a.1.points ∨ c ∈ a.2.points) :
    ∃ ch ∈ text, c = CodePoint.ofChar ch := by
  obtain ⟨line, hline, hparsed⟩ := List.mem_filterMap.1 h
  obtain ⟨-, -, hname, hvalue⟩ := parseLine?_eq_some hparsed
  have hmem : c ∈ (Text.ofChars line).points := hc.elim (fun hc => hname hc) fun hc => hvalue hc
  obtain ⟨ch, hch, rfl⟩ := List.mem_map.1 hmem
  exact ⟨ch, Text.mem_of_mem_splitOn hline hch, rfl⟩

/-- Whatever a file of settings assigns can be set, but for null characters. -/
lemma plain_of_mem_parse : Environment.Plain a.1 a.2 := by
  have hhalf : ∀ c, c ∈ a.1.points ∨ c ∈ a.2.points → c.isHalf = false := by
    intro c hc
    obtain ⟨ch, -, rfl⟩ := exists_char_of_mem_parse h hc
    exact CodePoint.isHalf_ofChar ch
  obtain ⟨line, -, hparsed⟩ := List.mem_filterMap.1 h
  obtain ⟨hblank, hequals, -, -⟩ := parseLine?_eq_some hparsed
  refine ⟨?_, ?_, hequals, hblank⟩
  · rw [Environment.storedText, Text.stored_eq fun c hc => hhalf c (Or.inl hc)]
    rfl
  · rw [Environment.storedText, Text.stored_eq fun c hc => hhalf c (Or.inr hc)]
    rfl

end Parse

end EnvFile

namespace Environment

section Load

variable {env : Environment} {file : Option ByteArray} {text : List Char}

/-- **Reading a file of settings lays its assignments beneath the environment,** as long as no
variable that it adds holds a null character. -/
theorem exists_load_of_adds (htext : EnvFile.text? file = some text)
    (hnull : ∀ name value, env.Adds (EnvFile.parse text) name value → ¬ HoldsNull name value) :
    ∃ after, env.load file = (after, none) ∧
      ∀ name, after.get? name = (env.above (EnvFile.parse text)).get? name := by
  cases file with
  | none =>
    obtain rfl : [] = text := Option.some.inj htext
    have hparse : EnvFile.parse [] = [] := by decide
    refine ⟨env, rfl, fun name => ?_⟩
    rw [hparse, get?_above, List.lookup_nil, Option.or_none]
  | some bytes =>
    obtain ⟨after, hafter, hget⟩ :=
      env.exists_seed (fun a ha => EnvFile.plain_of_mem_parse ha) hnull
    refine ⟨after, ?_, hget⟩
    have hbytes : Text.ofBytes? bytes = some text := htext
    simp only [load, hbytes, hafter]
    rfl

lemma load_of_holdsNull (htext : EnvFile.text? file = some text) {name value : Text}
    (hadds : env.Adds (EnvFile.parse text) name value) (hnull : HoldsNull name value) :
    (env.load file).2 = some (.variable .nullCharacter) := by
  cases file with
  | none =>
    obtain rfl : [] = text := Option.some.inj htext
    have hparse : EnvFile.parse [] = [] := by decide
    have hmem := hadds.mem
    rw [hparse] at hmem
    exact absurd hmem (by simp)
  | some bytes =>
    have hbytes : Text.ofBytes? bytes = some text := htext
    have hseed := seed_of_holdsNull (fun a ha => EnvFile.plain_of_mem_parse ha) hadds hnull
    simp only [load, hbytes, hseed]
    rfl

lemma load_of_not_text (h : EnvFile.text? file = none) : env.load file = (env, some .notText) := by
  cases file with
  | none => contradiction
  | some bytes =>
    have hbytes : Text.ofBytes? bytes = none := h
    simp only [load, hbytes]

end Load

end Environment

end GreatCircle
