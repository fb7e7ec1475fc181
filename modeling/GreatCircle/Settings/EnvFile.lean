/-
# Files of settings

A file of settings assigns a value to a variable on each line, with an equals sign between.  The
word `export` may stand before the name, quotes may stand around the value, and lines that begin
with a number sign are comments.  Lines that assign nothing are passed over.

Such a file only adds to an environment: variables that are set already keep their values, so
the first of several assignments counts.
-/
import GreatCircle.Settings.Environment
import GreatCircle.Text.Blank
import GreatCircle.Text.FileText
import GreatCircle.Text.Split

namespace GreatCircle

namespace EnvFile

/-- The text after the word that marks a variable as exported, if it begins with that word. -/
def dropExport (text : List CodePoint) : List CodePoint :=
  let word : Text := "export "
  if word.points.isPrefixOf text then (text.drop 7).dropWhile Text.isBlank else text

/-- A single or a double quote. -/
def isQuote (c : CodePoint) : Bool := c = '\'' || c = '"'

/-- The name and the value that a line assigns. -/
def parseLine? (line : Text) : Option (Text × Text) :=
  let text := dropExport line.strip.points
  if text.head? = some '#' then none
  else match Text.cutAt? ('=' : CodePoint) text with
    | some (before, after) =>
      let name := Text.strip ⟨before⟩
      let value := Text.trim isQuote (Text.strip ⟨after⟩).points
      if name.isEmpty then none else some (name, ⟨value⟩)
    | none => none

/-- The assignments of a file, line by line. -/
def parse (text : List Char) : List (Text × Text) :=
  (Text.splitOn '\n' text).filterMap fun line => parseLine? (Text.ofChars line)

/-- Why a file of settings is not taken to its end. -/
inductive LoadFault where
  /-- Its bytes are no text. -/
  | notText
  /-- A variable cannot be set. -/
  | variable (fault : VariableFault)
deriving DecidableEq, Repr

end EnvFile

namespace Environment

/-- The environment after assignments that set what is not set yet, up to the first that
fails. -/
def seed (env : Environment) : List (Text × Text) → Environment × Option VariableFault
  | [] => (env, none)
  | (name, value) :: rest =>
    match env.setDefault name value with
    | .ok next => next.seed rest
    | .error fault => (env, some fault)

/-- The environment after a file of settings.  A missing file changes nothing, and the whole file
is read before anything is set. -/
def load (env : Environment) (file : Option ByteArray) :
    Environment × Option EnvFile.LoadFault :=
  match file with
  | none => (env, none)
  | some bytes =>
    match Text.ofBytes? bytes with
    | none => (env, some .notText)
    | some text =>
      let (after, fault) := env.seed (EnvFile.parse text)
      (after, fault.map .variable)

end Environment

end GreatCircle
