/-
# Catalogs in files

A catalog file holds an object with a list of cities; each city is an object with a name, a
latitude and a longitude.  `Catalog.ofBytes` reads the bytes of such a file; how its text becomes a
document is left to a `DocumentReader`.  The first bad entry ends the reading.
-/
import GreatCircle.City.Catalog
import GreatCircle.City.Coordinate
import GreatCircle.Text.FileText
import GreatCircle.Yaml.Document

namespace GreatCircle

/-- What is wrong with an entry of a catalog. -/
inductive EntryFault where
  /-- A field is missing. -/
  | missing (field : String)
  /-- The entry is a value whose parts have places and no names: it is of this kind. -/
  | hasPlaces (kind : String)
  /-- The entry is a text, which has no fields. -/
  | isText
  /-- The entry is a value of another kind, which has no fields. -/
  | isOther (kindName : String)
  /-- The name holds a whole number that is too long to be written out. -/
  | longName
  /-- A coordinate is a value of this kind, which is no number. -/
  | notNumber (kindName : String)
  /-- The coordinates are not taken. -/
  | coordinates (fault : CoordinateFault)

namespace EntryFault

/-- The wording of a fault. -/
def message : EntryFault → String
  | missing field => Text.quote field
  | hasPlaces kind => kind ++ " indices must be integers or slices, not str"
  | isText => "string indices must be integers, not 'str'"
  | isOther kind => "'" ++ kind ++ "' object is not subscriptable"
  | longName =>
    "Exceeds the limit (" ++ toString Value.digitLimit ++
      " digits) for integer string conversion; use sys.set_int_max_str_digits() to increase" ++
      " the limit"
  | notNumber kind => "float() argument must be a string or a real number, not '" ++ kind ++ "'"
  | coordinates fault => fault.message

end EntryFault

/-- A way to read the text of a file as a document. -/
abbrev DocumentReader := List Char → Except Yaml.Fault Value

/-- Why a file is not taken as a catalog. -/
inductive CatalogFault where
  /-- Its bytes are no text. -/
  | notText
  /-- Its text is not read. -/
  | notYaml (fault : Yaml.Fault)
  /-- It holds no list of cities. -/
  | noList
  /-- An entry is not built as it must be. -/
  | badEntry (index : Nat) (fault : EntryFault)
  /-- The name of an entry is blank. -/
  | emptyName (index : Nat)
  /-- A coordinate is a whole number beyond all doubles. -/
  | hugeNumber

namespace CatalogFault

/-- The wording of the faults of what a file of some name holds; the file itself is not read
otherwise. -/
def message? (fileName : Text) : CatalogFault → Option Text
  | noList => some (fileName ++ ": expected a top-level 'cities' list.")
  | badEntry index fault =>
    some (fileName ++ ": invalid city entry #" ++ toString index ++ ": " ++ fault.message)
  | emptyName index =>
    some (fileName ++ ": city entry #" ++ toString index ++ " has an empty name.")
  | notText | notYaml _ | hugeNumber => none

end CatalogFault

/-- What is wrong with one entry, which may be more than the entry alone can say. -/
inductive EntryStop where
  /-- The entry is bad. -/
  | fault (fault : EntryFault)
  /-- A coordinate is a whole number beyond all doubles. -/
  | hugeNumber

namespace Value

/-- A field of an entry. -/
def entryField (name : String) : Value → Except EntryFault Value
  | object fields =>
    match field? name fields with
    | some v => .ok v
    | none => .error (.missing name)
  | list _ | again false => .error (.hasPlaces "list")
  | pair .. => .error (.hasPlaces "tuple")
  | bytes _ => .error (.hasPlaces "byte")
  | text _ => .error .isText
  | v => .error (.isOther v.kindName)

/-- The double that a value stands for. -/
def toCoordinate : Value → Except EntryStop Float
  | float x => .ok x
  | bool b => .ok (if b then 1.0 else 0.0)
  | int n =>
    match Decimal.ofInt? n with
    | some x => .ok x
    | none => .error .hugeNumber
  | text t => (coordinateOfText t).mapError fun fault => .fault (.coordinates fault)
  | bytes b => (coordinateOfBytes b).mapError fun fault => .fault (.coordinates fault)
  | v => .error (.fault (.notNumber v.kindName))

/-- The city of an entry.  Its name is stripped of white space and may be empty. -/
def toCity (entry : Value) : Except EntryStop City := do
  let field (name : String) : Except EntryStop Value :=
    (entry.entryField name).mapError EntryStop.fault
  let name ← field "name"
  if !name.isWritable then throw (.fault .longName)
  let lat ← (← field "lat").toCoordinate
  let lon ← (← field "lon").toCoordinate
  match GeoPoint.ofCoordinates lat lon with
  | .ok location => return ⟨Text.strip name.shown, location⟩
  | .error fault => throw (.fault (.coordinates fault))

/-- The list of cities of a document. -/
def cityList? : Value → Option (List Value)
  | object fields =>
    match field? "cities" fields with
    | some (list entries) => some entries
    | _ => none
  | _ => none

end Value

namespace Catalog

/-- A catalog with the cities of further entries, the first of which has a given index. -/
def addEntries (catalog : Catalog) (index : Nat) : List Value → Except CatalogFault Catalog
  | [] => .ok catalog
  | entry :: rest =>
    match entry.toCity with
    | .error (.fault fault) => .error (.badEntry index fault)
    | .error .hugeNumber => .error .hugeNumber
    | .ok city =>
      if city.name = "" then .error (.emptyName index)
      else (catalog.insert (Text.lower city.name) city).addEntries (index + 1) rest

/-- The catalog of a document. -/
def ofValue (document : Value) : Except CatalogFault Catalog :=
  match document.cityList? with
  | some entries => empty.addEntries 0 entries
  | none => .error .noList

/-- The catalog in the bytes of a file, whose text is read with `reader`. -/
def ofBytes (bytes : ByteArray) (reader : DocumentReader := Yaml.read) :
    Except CatalogFault Catalog :=
  match Text.ofBytes? bytes with
  | none => .error .notText
  | some text =>
    match reader text with
    | .error fault => .error (.notYaml fault)
    | .ok document => ofValue document

end Catalog

end GreatCircle
