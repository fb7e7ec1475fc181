/-
# Environments

An `Environment` gives values to names.  Not every name can be set: a name is not empty and holds
no equals sign, and neither name nor value holds a null character.  Both are stored as bytes.

A process is handed its variables as a block of bytes, which `Environment.ofBlock` reads.
-/
import GreatCircle.Text.Split
import GreatCircle.Text.Stored

namespace GreatCircle

/-- Values of variables, each name once. -/
structure Environment where
  /-- The names with their values. -/
  entries : List (Text × Text)

/-- Why a variable cannot be set. -/
inductive VariableFault where
  /-- The name or the value holds halves that cannot be stored. -/
  | notStored (fault : Text.StoreFault)
  /-- The name or the value holds a null character. -/
  | nullCharacter
  /-- The name holds an equals sign. -/
  | equalsSign
  /-- The name is empty. -/
  | emptyName
deriving DecidableEq, Repr

/-- The wording of a fault. -/
def VariableFault.message : VariableFault → String
  | notStored fault => fault.message
  | nullCharacter => "embedded null byte"
  | equalsSign => "illegal environment variable name"
  | emptyName => "[Errno 22] Invalid argument"

namespace Environment

/-- No variables. -/
def empty : Environment := ⟨[]⟩

/-- The variable that some bytes hold: a name, an equals sign and a value.  Where there is no equals
sign there is no variable. -/
def variableOf? (bytes : List UInt8) : Option (Text × Text) :=
  let text (bytes : List UInt8) : Text := ⟨Text.pointsOf bytes.length bytes⟩
  (Text.cutAt? ('='.toNat.toUInt8) bytes).map fun v => (text v.1, text v.2)

/-- The variables of a block of bytes, with a zero after each.  Of two with the same name the first
one counts. -/
def ofBlock (block : ByteArray) : Environment :=
  let given := (Text.splitOn 0 block.toList).filterMap variableOf?
  ⟨given.eraseDupsBy fun v w => v.1 == w.1⟩

/-- A name that comes twice, a value with an equals sign, and a byte that is no character. -/
example : (ofBlock ⟨"A=1\x00B=2=3\x00A=4\x00C\x00D=".toUTF8.data ++ #[0xFF, 0]⟩).entries =
    ([("A", "1"), ("B", "2=3"), ("D", ⟨[⟨0xDCFF, by decide⟩]⟩)] : List (Text × Text)) := by
  decide +kernel

/-- The value of a variable. -/
def get? (env : Environment) (name : Text) : Option Text := env.entries.lookup name

/-- The environment without a variable. -/
def unset (env : Environment) (name : Text) : Environment :=
  ⟨env.entries.filter fun v => v.1 != name⟩

/-- The environment in which a variable has a new value. -/
def assign (env : Environment) (name value : Text) : Environment :=
  ⟨(name, value) :: (env.unset name).entries⟩

/-- What speaks against setting a variable. -/
def fault? (name value : Text) : Option VariableFault :=
  if name.points.contains '\x00' || value.points.contains '\x00' then some .nullCharacter
  else if name.points.contains '=' then some .equalsSign
  else if name = "" then some .emptyName
  else none

/-- A name or a value as it is stored. -/
def storedText (t : Text) : Except VariableFault Text := t.stored.mapError .notStored

/-- Sets a variable, if it can be set. -/
def set (env : Environment) (name value : Text) : Except VariableFault Environment := do
  let name ← storedText name
  let value ← storedText value
  match fault? name value with
  | some fault => throw fault
  | none => return env.assign name value

/-- Takes a variable away, if it is there. -/
def remove (env : Environment) (name : Text) : Except VariableFault Environment := do
  return env.unset (← storedText name)

/-- Sets a variable unless it is set already. -/
def setDefault (env : Environment) (name value : Text) : Except VariableFault Environment :=
  if (env.get? name).isSome then .ok env else env.set name value

/-- The variables in the order of their names. -/
def sorted (env : Environment) : List (Text × Text) :=
  env.entries.mergeSort fun v w => !w.1.codes.lex v.1.codes Nat.blt

@[simp] theorem get?_empty (name : Text) : empty.get? name = none := rfl

theorem get?_unset (env : Environment) (name other : Text) :
    (env.unset name).get? other = if other = name then none else env.get? other := by
  obtain ⟨vars⟩ := env
  simp only [unset, get?]
  induction vars with
  | nil => simp
  | cons v rest ih =>
    obtain ⟨n, x⟩ := v
    by_cases hn : n = name
    · subst hn
      by_cases ho : other = n
      · subst ho
        simpa using ih
      · simpa [List.lookup_cons, beq_eq_false_iff_ne.2 ho, ho] using ih
    · by_cases ho : other = n
      · subst ho
        simp [hn]
      · simpa [List.lookup_cons, hn, beq_eq_false_iff_ne.2 ho] using ih

theorem get?_assign (env : Environment) (name other value : Text) :
    (env.assign name value).get? other = if other = name then some value else env.get? other := by
  by_cases h : other = name
  · subst h
    simp [assign, get?]
  · have := get?_unset env name other
    simp only [get?] at this
    simp [assign, get?, List.lookup_cons, beq_eq_false_iff_ne.2 h, h, this]

end Environment

end GreatCircle
