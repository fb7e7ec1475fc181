/-
# The first feature that fails

`Value.namedRings` asks features for fields, and most values have none.  Where nothing, zero or an
empty text stands in the place of an object, it counts as an object without fields; any other value
makes the feature fail (`Value.fails`).  But the geometry is asked only if there is a name.

A search gives the named rings of all features before the first one that fails, none of that one or
of later ones, and the fault of that one: `Value.namedRings_of_features`.
-/
import Mathlib.Data.List.Forall2
import Mathlib.Tactic.Lemma
import GreatCircle.GeoJson.NamedRing

namespace GreatCircle

namespace Value

/-- The value is an object. -/
def isObject : Value → Bool
  | object _ => true
  | _ => false

/-- A field of an object.  A missing field is nothing, and so is any field of another value. -/
def fieldOf (name : String) : Value → Value
  | object fields => (field? name fields).getD null
  | _ => null

/-- The value cannot stand for an object: it is neither one nor empty. -/
def lacksFields (v : Value) : Bool := v.isTruthy && !v.isObject

/-- The name that the properties of a feature give it. -/
def featureName (feature : Value) : Value := (feature.fieldOf "properties").fieldOf "name"

/-- The named rings of a feature that does not fail; there are none without a name. -/
def namedArea (feature : Value) : List (Value × Value) :=
  if feature.featureName.isTruthy then
    ((feature.fieldOf "geometry").fieldOf "coordinates").rings.map fun ring =>
      (feature.featureName, ring)
  else []

/-- The feature is no object, or its properties cannot stand for one, or it has a name and its
geometry cannot stand for one. -/
def fails (feature : Value) : Bool :=
  !feature.isObject || (feature.fieldOf "properties").lacksFields ||
    feature.featureName.isTruthy && (feature.fieldOf "geometry").lacksFields

/-- Of a feature that fails, the part that is asked for fields in vain. -/
def misfit (feature : Value) : Value :=
  if !feature.isObject then feature
  else if (feature.fieldOf "properties").lacksFields then feature.fieldOf "properties"
  else feature.fieldOf "geometry"

/-! ### One feature -/

lemma getField_eq (v : Value) (name : String) :
    v.getField name =
      if v.isObject then .ok (v.fieldOf name) else .error (.noFields v.kindName) := by
  cases v <;> rfl

lemma fieldOf_of_not_isTruthy {v : Value} (h : v.isTruthy = false) (name : String) :
    v.fieldOf name = null := by
  cases v with
  | object fields =>
    obtain rfl : fields = [] := by simpa [isTruthy] using h
    rfl
  | _ => rfl

/-- What is empty is asked for fields like an object without any. -/
lemma getField_orEmptyObject (v : Value) (name : String) :
    v.orEmptyObject.getField name =
      if v.lacksFields then .error (.noFields v.kindName) else .ok (v.fieldOf name) := by
  unfold orEmptyObject lacksFields
  cases htruthy : v.isTruthy with
  | true =>
    rw [if_pos rfl, getField_eq, Bool.true_and]
    cases v.isObject <;> rfl
  | false =>
    rw [if_neg Bool.false_ne_true, Bool.false_and, if_neg Bool.false_ne_true,
      fieldOf_of_not_isTruthy htruthy]
    rfl

/-- What an object is asked for as a feature. -/
lemma featureRings_of_isObject {feature : Value} (h : feature.isObject = true) :
    feature.featureRings =
      ((feature.fieldOf "properties").orEmptyObject.getField "name").bind fun name =>
        if name.isTruthy then
          ((feature.fieldOf "geometry").orEmptyObject.getField "coordinates").bind
            fun coordinates => .ok (coordinates.rings.map fun ring => (name, ring))
        else .ok [] := by
  cases feature with
  | object fields => rfl
  | _ => contradiction

/-- A feature is asked for its properties first, and for its geometry only if it has a name. -/
lemma featureRings_eq (feature : Value) :
    feature.featureRings =
      if feature.fails then .error (.noFields feature.misfit.kindName)
      else .ok feature.namedArea := by
  unfold fails misfit namedArea
  cases hobject : feature.isObject with
  | false =>
    rw [featureRings, getField_eq, hobject]
    rfl
  | true =>
    rw [featureRings_of_isObject hobject, getField_orEmptyObject, getField_orEmptyObject]
    cases (feature.fieldOf "properties").lacksFields with
    | true => rfl
    | false =>
      change (if feature.featureName.isTruthy = true then _ else _) = _
      cases feature.featureName.isTruthy with
      | false => rfl
      | true => cases (feature.fieldOf "geometry").lacksFields <;> rfl

/-! ### All features -/

/-- Two features of which a search finds out the same, since they are the same or have no name:
without one, only the properties count. -/
inductive SameIfNamed : Value → Value → Prop
  | same (feature : Value) : SameIfNamed feature feature
  | unnamed {fields fields' : List (Value × Value)}
      (properties : field? "properties" fields' = field? "properties" fields)
      (noName : (object fields).featureName.isTruthy = false) :
      SameIfNamed (object fields) (object fields')

lemma SameIfNamed.featureRings_eq {feature feature' : Value} (h : SameIfNamed feature feature') :
    feature'.featureRings = feature.featureRings := by
  cases h with
  | same => rfl
  | @unnamed fields fields' hproperties hnoName =>
    have hfieldOf :
        (object fields').fieldOf "properties" = (object fields).fieldOf "properties" := by
      rw [fieldOf, fieldOf, hproperties]
    rw [featureRings_of_isObject rfl, featureRings_of_isObject rfl, hfieldOf,
      getField_orEmptyObject]
    cases ((object fields).fieldOf "properties").lacksFields with
    | true => rfl
    | false =>
      -- the geometry would be looked at only after a name
      change (if (object fields).featureName.isTruthy = true then _ else _) =
        if (object fields).featureName.isTruthy = true then _ else _
      rw [hnoName]
      rfl

lemma searchFeatures_eq (features : List Value) :
    searchFeatures features =
      ⟨(features.takeWhile fun feature => !feature.fails).flatMap namedArea,
        (features.find? fails).map fun feature => .noFields feature.misfit.kindName⟩ := by
  induction features with
  | nil => rfl
  | cons feature rest ih =>
    rw [searchFeatures, featureRings_eq, ih]
    cases hfails : feature.fails with
    | true =>
      rw [List.takeWhile_cons_of_neg (by simp [hfails]), List.find?_cons_of_pos hfails]
      rfl
    | false =>
      rw [List.takeWhile_cons_of_pos (by simp [hfails]), List.find?_cons_of_neg (by simp [hfails])]
      rfl

lemma searchFeatures_congr {features features' : List Value}
    (h : List.Forall₂ SameIfNamed features features') :
    searchFeatures features' = searchFeatures features := by
  induction h with
  | nil => rfl
  | cons hfeature _ ih => rw [searchFeatures, searchFeatures, hfeature.featureRings_eq, ih]

lemma namedRings_eq {fields : List (Value × Value)} {features : List Value}
    (h : field? "features" fields = some (list features)) :
    namedRings (object fields) = searchFeatures features := by
  rw [namedRings, Value.features, h]
  rfl

/-- **A search ends at the first feature that fails.**  It gives the named rings of the features
before that one, in order, and its fault, which is always that a value has no fields.  There is such
a fault exactly if a feature fails.  A feature without a name may have any geometry. -/
theorem namedRings_of_features {fields : List (Value × Value)} {features : List Value}
    (h : field? "features" fields = some (list features)) :
    (namedRings (object fields)).found =
        (features.takeWhile fun feature => !feature.fails).flatMap namedArea ∧
      (namedRings (object fields)).fault =
        (features.find? fails).map (fun feature => .noFields feature.misfit.kindName) ∧
      ((∃ kind, (namedRings (object fields)).fault = some (.noFields kind)) ↔
        ∃ feature ∈ features, feature.fails = true) ∧
      ∀ fields' features', field? "features" fields' = some (list features') →
        List.Forall₂ SameIfNamed features features' →
          namedRings (object fields') = namedRings (object fields) := by
  rw [namedRings_eq h, searchFeatures_eq]
  refine ⟨rfl, rfl, ?_, fun fields' features' h' hsame => ?_⟩
  · simp only [Option.map_eq_some_iff]
    constructor
    · rintro ⟨kind, feature, hfind, -⟩
      exact ⟨feature, List.mem_of_find?_eq_some hfind, List.find?_some hfind⟩
    · rintro ⟨feature, hmem, hfails⟩
      obtain ⟨first, hfirst⟩ :=
        Option.isSome_iff_exists.1 (List.find?_isSome.2 ⟨feature, hmem, hfails⟩)
      exact ⟨_, first, hfirst, rfl⟩
  · rw [namedRings_eq h', searchFeatures_congr hsame, searchFeatures_eq]

/-- Before the feature that fails, one has a name, and another one has a number in the place of its
geometry and no name. -/
theorem namedRings_of_features_partly_found :
    let point : Value := .list [.int 1, .int 2]
    let named (name geometry : Value) : Value :=
      .object [(.text "properties", .object [(.text "name", name)]), (.text "geometry", geometry)]
    let area : Value := .object [(.text "coordinates", .list [.list [point]])]
    let features := [named (.text "Alpha") area, named (.text "") (.int 5),
      named (.int 3) (.text "x"), named (.text "Beta") area]
    let others := [named (.text "Alpha") area, named (.text "") area, named (.int 3) (.text "x"),
      named (.text "Beta") area]
    field? "features" [(.text "features", .list features)] = some (.list features) ∧
      (namedRings (.object [(.text "features", .list features)])).found =
        [(.text "Alpha", .list [point])] ∧
      (namedRings (.object [(.text "features", .list features)])).fault = some (.noFields "str") ∧
      namedRings (.object [(.text "features", .list others)]) =
        namedRings (.object [(.text "features", .list features)]) := by
  intro point named area features others
  have hfeatures :
      field? "features" [(.text "features", .list features)] = some (.list features) := rfl
  obtain ⟨hfound, hfault, -, hothers⟩ := namedRings_of_features hfeatures
  refine ⟨hfeatures, hfound, hfault, hothers _ others rfl ?_⟩
  exact .cons (.same _) (.cons (.unnamed rfl rfl) (.cons (.same _) (.cons (.same _) .nil)))

end Value

end GreatCircle
