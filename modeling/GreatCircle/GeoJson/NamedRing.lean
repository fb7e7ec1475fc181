/-
# Named rings of a feature collection

`Value.namedRings` goes through the features of a collection and lists the rings of each
feature that has a name, together with the name.  It stops at the first feature that is not
built as a feature must be; what it found before then is kept.
-/
import GreatCircle.GeoJson.Ring

namespace GreatCircle

/-- Why a value cannot be searched. -/
inductive ShapeFault where
  /-- A field was asked of a value of this kind, which has none. -/
  | noFields (kindName : String)
  /-- The items of a value of this kind were asked for, which has none. -/
  | noItems (kindName : String)
deriving DecidableEq, Repr

namespace ShapeFault

/-- The wording of a fault. -/
def message : ShapeFault → String
  | noFields kind => "'" ++ kind ++ "' object has no attribute 'get'"
  | noItems kind => "'" ++ kind ++ "' object is not iterable"

end ShapeFault

namespace Value

/-- A field of an object; a missing one is nothing. -/
def getField (name : String) : Value → Except ShapeFault Value
  | object fields => .ok ((field? name fields).getD null)
  | v => .error (.noFields v.kindName)

/-- A value, or an object without fields in the place of an empty value. -/
def orEmptyObject (v : Value) : Value := if v.isTruthy then v else object []

/-- The items that a value is made of: those of a list, the code points of a text, the keys of
an object. -/
def itemsOf : Value → Except ShapeFault (List Value)
  | list items => .ok items
  | text t => .ok (t.points.map fun c => text ⟨[c]⟩)
  | object fields => .ok (fields.map Prod.fst)
  | v => .error (.noItems v.kindName)

/-- The features of a collection; there are none if the field is missing. -/
def features : Value → Except ShapeFault (List Value)
  | object fields =>
    match field? "features" fields with
    | some v => v.itemsOf
    | none => .ok []
  | v => .error (.noFields v.kindName)

/-- The rings of one feature with its name.  A feature with an empty name has none, and its
geometry is not looked at. -/
def featureRings (feature : Value) : Except ShapeFault (List (Value × Value)) := do
  let properties ← feature.getField "properties"
  let name ← properties.orEmptyObject.getField "name"
  if name.isTruthy then
    let geometry ← feature.getField "geometry"
    let coordinates ← geometry.orEmptyObject.getField "coordinates"
    return coordinates.rings.map fun ring => (name, ring)
  else return []

/-- What a search has found, and the fault that ended it if there was one. -/
structure Search where
  /-- Names with their rings. -/
  found : List (Value × Value)
  /-- The fault that ended the search. -/
  fault : Option ShapeFault

/-- The named rings of a list of features, up to the first bad one. -/
def searchFeatures : List Value → Search
  | [] => ⟨[], none⟩
  | feature :: rest =>
    match feature.featureRings with
    | .ok found =>
      let more := searchFeatures rest
      ⟨found ++ more.found, more.fault⟩
    | .error fault => ⟨[], some fault⟩

/-- The named rings of a collection. -/
def namedRings (collection : Value) : Search :=
  match collection.features with
  | .ok features => searchFeatures features
  | .error fault => ⟨[], some fault⟩

end Value

end GreatCircle
