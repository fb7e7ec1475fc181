/-
# Feature collections in files

`FeatureCollection.ofBytes` reads the bytes of a file as JSON text and checks that the document
says it is a feature collection.  Nothing else about it is checked.
-/
import GreatCircle.Json.Reader
import GreatCircle.Text.FileText

namespace GreatCircle.FeatureCollection

/-- Why a file is not taken. -/
inductive DocumentFault where
  /-- Its bytes are no text. -/
  | notText
  /-- Its text is not read. -/
  | notJson (fault : Json.Fault)
  /-- It holds another document. -/
  | notCollection
deriving DecidableEq, Repr

/-- The wording of the fault that a file of some name holds another document. -/
def notCollectionMessage (fileName : String) : String :=
  fileName ++ " is not a GeoJSON FeatureCollection."

/-- The document says that it is a feature collection. -/
def isCollection : Value → Bool
  | .object fields =>
    match Value.field? "type" fields with
    | some (.text name) => name == "FeatureCollection"
    | _ => false
  | _ => false

/-- The feature collection in the bytes of a file. -/
def ofBytes (bytes : ByteArray) : Except DocumentFault Value :=
  match Text.ofBytes? bytes with
  | none => .error .notText
  | some text =>
    match Json.read text with
    | .error fault => .error (.notJson fault)
    | .ok v => if isCollection v then .ok v else .error .notCollection

end GreatCircle.FeatureCollection
