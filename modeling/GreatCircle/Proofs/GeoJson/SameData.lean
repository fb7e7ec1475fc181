/-
# Lines and markers, written in two ways

Styled lines are written as a list of objects (`linesToValue`), markers as objects of their own,
and both together as a feature collection (`featureCollection`).  The two ways hold the same data:
the feature at a position has the points of the object at that position as its coordinates, and
what else the object holds as its properties (`SameData`).  Nothing is lost either way, since both
can be read back: `featureCollection_sameData`.
-/
import Mathlib.Data.List.Nodup
import Mathlib.Tactic.Lemma
import GreatCircle.GeoJson.FeatureCollection

namespace GreatCircle

/-! ### Fields by name -/

namespace Value

/-- The value of a field of an object. -/
def get? (name : String) : Value → Option Value
  | object fields => field? name fields
  | _ => none

/-- An object without one of its fields. -/
def without (name : String) : Value → Value
  | object fields => object (fields.filter fun f => f.1.key? != some (.text name))
  | v => v

/-- The value is an object that holds just the fields that are set among optional ones. -/
structure HoldsJust (v : Value) (looks : List (String × Option Value)) : Prop where
  get?_eq : ∀ f ∈ looks, v.get? f.1 = f.2
  only : ∃ fields, v = object fields ∧
    ∀ f ∈ fields, ∃ name, f.1 = text (name : String) ∧ (name, some f.2) ∈ looks

lemma key?_text_beq (name other : String) :
    ((text name).key? == some (.text other)) = decide (name = other) := by
  rw [Bool.eq_iff_iff, decide_eq_true_iff, beq_iff_eq, key?, Option.some_inj, Key.text.injEq]
  exact ⟨Text.ofString_injective, congrArg _⟩

lemma field?_cons (name other : String) (v : Value) (rest : List (Value × Value)) :
    field? name ((text other, v) :: rest) = if other = name then some v else field? name rest := by
  rw [field?, List.find?_cons, key?_text_beq]
  by_cases h : other = name
  · rw [if_pos h, decide_eq_true h, Option.map_some]
  · rw [if_neg h, decide_eq_false h, field?]

lemma mem_presentFields {looks : List (String × Option Value)} {f : Value × Value} :
    f ∈ presentFields looks ↔ ∃ name : String, f.1 = text name ∧ (name, some f.2) ∈ looks := by
  obtain ⟨key, v⟩ := f
  simp only [presentFields, List.mem_filterMap, Option.map_eq_some_iff, Prod.mk.injEq, Prod.exists]
  constructor
  · rintro ⟨name, _, hmem, x, rfl, rfl, rfl⟩
    exact ⟨name, rfl, hmem⟩
  · rintro ⟨name, rfl, hmem⟩
    exact ⟨name, some v, hmem, v, rfl, rfl, rfl⟩

lemma field?_presentFields_of_notMem {looks : List (String × Option Value)} {name : String}
    (h : name ∉ looks.map Prod.fst) : field? name (presentFields looks) = none := by
  induction looks with
  | nil => rfl
  | cons f rest ih =>
    obtain ⟨other, v⟩ := f
    obtain ⟨hother, hrest⟩ := not_or.1 (mt List.mem_cons.2 h)
    cases v with
    | none => exact ih hrest
    | some v => rw [presentFields_cons_some, field?_cons, if_neg (Ne.symm hother), ih hrest]

/-- What is set is found, and nothing else. -/
lemma field?_presentFields {looks : List (String × Option Value)}
    (hnodup : (looks.map Prod.fst).Nodup) {name : String} {v : Option Value}
    (h : (name, v) ∈ looks) : field? name (presentFields looks) = v := by
  induction looks with
  | nil => contradiction
  | cons f rest ih =>
    obtain ⟨other, x⟩ := f
    obtain ⟨hother, hrest⟩ := List.nodup_cons.1 hnodup
    rcases List.mem_cons.1 h with hfirst | hlater
    · obtain ⟨rfl, rfl⟩ := Prod.mk.inj hfirst
      cases v with
      | none =>
        rw [presentFields_cons_none]
        exact field?_presentFields_of_notMem hother
      | some v => rw [presentFields_cons_some, field?_cons, if_pos rfl]
    · have hne : other ≠ name := by
        rintro rfl
        exact hother (List.mem_map.2 ⟨_, hlater, rfl⟩)
      cases x with
      | none => exact ih hrest hlater
      | some x => rw [presentFields_cons_some, field?_cons, if_neg hne, ih hrest hlater]

lemma holdsJust_presentFields {looks : List (String × Option Value)}
    (hnodup : (looks.map Prod.fst).Nodup) : (object (presentFields looks)).HoldsJust looks := by
  constructor
  · intro f hf
    exact field?_presentFields hnodup hf
  · exact ⟨_, rfl, fun f hf => mem_presentFields.1 hf⟩

/-- In front of optional fields another field does not hide them. -/
lemma get?_cons_presentFields {looks : List (String × Option Value)} {name : String}
    (hname : name ∉ looks.map Prod.fst) (hnodup : (looks.map Prod.fst).Nodup) (v : Value)
    {f : String × Option Value} (hf : f ∈ looks) :
    (object ((text name, v) :: presentFields looks)).get? f.1 = f.2 := by
  have hne : name ≠ f.1 := by
    rintro rfl
    exact hname (List.mem_map_of_mem hf)
  rw [get?, field?_cons, if_neg hne, field?_presentFields hnodup hf]

/-- Of an object that begins with a field, the others are left when it is taken out. -/
lemma without_cons_presentFields {looks : List (String × Option Value)} {name : String}
    (h : name ∉ looks.map Prod.fst) (v : Value) :
    (object ((text name, v) :: presentFields looks)).without name =
      object (presentFields looks) := by
  have hother : ∀ f ∈ presentFields looks, (!(f.1.key? == some (.text name))) = true := by
    intro f hf
    obtain ⟨other, hkey, hmem⟩ := mem_presentFields.1 hf
    have hne : other ≠ name := by
      rintro rfl
      exact h (List.mem_map_of_mem hmem)
    rw [hkey, key?_text_beq, decide_eq_false hne, Bool.not_false]
  simp only [without, bne, List.filter_cons, key?_text_beq, decide_true, Bool.not_true,
    Bool.false_eq_true, if_false]
  rw [List.filter_eq_self.2 hother]

end Value

/-! ### Reading back -/

/-- The point that a list of two doubles stands for. -/
def MapPoint.ofValue? : Value → Option (MapPoint Float)
  | .list [.float lon, .float lat] => some ⟨lon, lat⟩
  | _ => none

/-- The line through the points of a list. -/
def Polyline.ofValue? : Value → Option (Polyline Float)
  | .list items => (items.mapM MapPoint.ofValue?).bind Polyline.ofPoints?
  | _ => none

/-- What may be set of a style, by name. -/
def LineStyle.looks (style : LineStyle) : List (String × Option Value) :=
  [("stroke", style.stroke), ("strokeWidth", style.strokeWidth)]

/-- What may be set of a marker, by name. -/
def Marker.looks {α : Type} (m : Marker α) : List (String × Option Value) :=
  [("fill", m.fill), ("radius", m.radius), ("stroke", m.stroke), ("strokeWidth", m.strokeWidth)]

/-- The styled line of some points, with the style that is set in an object. -/
def StyledLine.ofParts? (points style : Value) : Option (StyledLine Float) :=
  (Polyline.ofValue? points).map fun line => ⟨line, style.get? "stroke", style.get? "strokeWidth"⟩

/-- The marker at a point, with the looks that are set in an object. -/
def Marker.ofParts? (point looks : Value) : Option (Marker Float) :=
  (MapPoint.ofValue? point).map fun p =>
    ⟨p, looks.get? "fill", looks.get? "radius", looks.get? "stroke", looks.get? "strokeWidth"⟩

/-- The styled line that an object stands for. -/
def StyledLine.ofValue? (v : Value) : Option (StyledLine Float) :=
  (v.get? "points").bind fun points => StyledLine.ofParts? points v

/-- The marker that an object stands for. -/
def Marker.ofValue? (v : Value) : Option (Marker Float) :=
  (v.get? "lonLat").bind fun point => Marker.ofParts? point v

/-- The styled lines that a list of objects stands for. -/
def linesOfValue? : Value → Option (List (StyledLine Float))
  | .list items => items.mapM StyledLine.ofValue?
  | _ => none

/-- The kind of geometry of a feature. -/
def geometryType? (feature : Value) : Option Text :=
  match (feature.get? "geometry").bind (Value.get? "type") with
  | some (.text name) => some name
  | _ => none

/-- The coordinates of a feature. -/
def coordinates? (feature : Value) : Option Value :=
  (feature.get? "geometry").bind (Value.get? "coordinates")

/-- The coordinates and the properties of a feature, if its geometry is of the given kind. -/
def featureParts? (geometryType : String) (feature : Value) : Option (Value × Value) :=
  if geometryType? feature = some (geometryType : Text) then
    (coordinates? feature).bind fun coordinates =>
      (feature.get? "properties").map fun properties => (coordinates, properties)
  else none

/-- The styled line that a feature stands for. -/
def StyledLine.ofFeature? (feature : Value) : Option (StyledLine Float) :=
  (featureParts? "LineString" feature).bind fun parts => StyledLine.ofParts? parts.1 parts.2

/-- The marker that a feature stands for. -/
def Marker.ofFeature? (feature : Value) : Option (Marker Float) :=
  (featureParts? "Point" feature).bind fun parts => Marker.ofParts? parts.1 parts.2

/-- The styled lines and the markers among the features of a collection. -/
def ofFeatureCollection? (v : Value) : Option (List (StyledLine Float) × List (Marker Float)) :=
  match v.get? "features" with
  | some (.list features) =>
    some (features.filterMap StyledLine.ofFeature?, features.filterMap Marker.ofFeature?)
  | _ => none

/-! ### What is written is read back -/

/-- A list is read back if every item is. -/
lemma mapM_map_of_read_back {β γ : Type} {write : β → γ} {read : γ → Option β}
    (h : ∀ b, read (write b) = some b) (items : List β) :
    (items.map write).mapM read = some items := by
  induction items with
  | nil => rfl
  | cons b rest ih => simp [h, ih]

@[simp] lemma MapPoint.ofValue?_toValue (p : MapPoint Float) : ofValue? p.toValue = some p := rfl

@[simp] lemma Polyline.ofValue?_toValue (line : Polyline Float) :
    ofValue? line.toValue = some line := by
  rw [toValue, ofValue?, mapM_map_of_read_back MapPoint.ofValue?_toValue, Option.bind_some,
    ofPoints?_points]

lemma LineStyle.nodup_looks (style : LineStyle) : (style.looks.map Prod.fst).Nodup := by
  change ["stroke", "strokeWidth"].Nodup
  decide

lemma LineStyle.points_notMem_looks (style : LineStyle) : "points" ∉ style.looks.map Prod.fst := by
  change "points" ∉ ["stroke", "strokeWidth"]
  decide

lemma Marker.nodup_looks {α : Type} (m : Marker α) : (m.looks.map Prod.fst).Nodup := by
  change ["fill", "radius", "stroke", "strokeWidth"].Nodup
  decide

lemma Marker.lonLat_notMem_looks {α : Type} (m : Marker α) : "lonLat" ∉ m.looks.map Prod.fst := by
  change "lonLat" ∉ ["fill", "radius", "stroke", "strokeWidth"]
  decide

/-- A styled line is read off its points and whatever its style is read off. -/
lemma StyledLine.ofParts?_toValue {styled : StyledLine Float} {style : Value}
    (h : ∀ f ∈ styled.style.looks, style.get? f.1 = f.2) :
    ofParts? styled.line.toValue style = some styled := by
  have hstroke := h ("stroke", styled.style.stroke) (by simp [LineStyle.looks])
  have hwidth := h ("strokeWidth", styled.style.strokeWidth) (by simp [LineStyle.looks])
  simp only at hstroke hwidth
  rw [ofParts?, Polyline.ofValue?_toValue, Option.map_some, hstroke, hwidth]

lemma Marker.ofParts?_toValue {m : Marker Float} {looks : Value}
    (h : ∀ f ∈ m.looks, looks.get? f.1 = f.2) : ofParts? m.point.toValue looks = some m := by
  have hfill := h ("fill", m.fill) (by simp [Marker.looks])
  have hradius := h ("radius", m.radius) (by simp [Marker.looks])
  have hstroke := h ("stroke", m.stroke) (by simp [Marker.looks])
  have hwidth := h ("strokeWidth", m.strokeWidth) (by simp [Marker.looks])
  simp only at hfill hradius hstroke hwidth
  rw [ofParts?, MapPoint.ofValue?_toValue, Option.map_some, hfill, hradius, hstroke, hwidth]

lemma StyledLine.ofValue?_toValue (styled : StyledLine Float) :
    ofValue? styled.toValue = some styled := by
  have hpoints : styled.toValue.get? "points" = some styled.line.toValue := by
    rw [toValue, Value.get?, Value.field?_cons, if_pos rfl]
  rw [ofValue?, hpoints, Option.bind_some]
  refine ofParts?_toValue fun f hf => ?_
  exact Value.get?_cons_presentFields styled.style.points_notMem_looks styled.style.nodup_looks _ hf

lemma Marker.ofValue?_toValue (m : Marker Float) : ofValue? m.toValue = some m := by
  have hpoint : m.toValue.get? "lonLat" = some m.point.toValue := by
    rw [toValue, Value.get?, Value.field?_cons, if_pos rfl]
  rw [ofValue?, hpoint, Option.bind_some]
  refine ofParts?_toValue fun f hf => ?_
  exact Value.get?_cons_presentFields m.lonLat_notMem_looks m.nodup_looks _ hf

lemma linesOfValue?_linesToValue (lines : List (StyledLine Float)) :
    linesOfValue? (linesToValue lines) = some lines :=
  mapM_map_of_read_back StyledLine.ofValue?_toValue lines

/-! ### Features -/

section Feature

variable (geometryType : String) (coordinates : Value) (properties : List (Value × Value))

@[simp] lemma geometryType?_feature :
    geometryType? (feature geometryType coordinates properties) = some (geometryType : Text) := rfl

@[simp] lemma coordinates?_feature :
    coordinates? (feature geometryType coordinates properties) = some coordinates := rfl

@[simp] lemma properties_feature :
    (feature geometryType coordinates properties).get? "properties" = some (.object properties) :=
  rfl

@[simp] lemma featureParts?_feature :
    featureParts? geometryType (feature geometryType coordinates properties) =
      some (coordinates, .object properties) := by
  rw [featureParts?, geometryType?_feature, if_pos rfl, coordinates?_feature, properties_feature,
    Option.bind_some, Option.map_some]

lemma featureParts?_feature_of_ne {other : String} (h : geometryType ≠ other) :
    featureParts? other (feature geometryType coordinates properties) = none := by
  rw [featureParts?, geometryType?_feature, if_neg]
  intro heq
  exact h (Text.ofString_injective (Option.some.inj heq))

end Feature

lemma StyledLine.ofFeature?_toFeature (styled : StyledLine Float) :
    ofFeature? styled.toFeature = some styled := by
  rw [ofFeature?, toFeature, featureParts?_feature, Option.bind_some]
  refine ofParts?_toValue fun f hf => ?_
  exact Value.field?_presentFields styled.style.nodup_looks hf

lemma Marker.ofFeature?_toFeature (m : Marker Float) : ofFeature? m.toFeature = some m := by
  rw [ofFeature?, toFeature, featureParts?_feature, Option.bind_some]
  refine ofParts?_toValue fun f hf => ?_
  exact Value.field?_presentFields m.nodup_looks hf

lemma StyledLine.ofFeature?_marker (m : Marker Float) : ofFeature? m.toFeature = none := by
  rw [ofFeature?, Marker.toFeature, featureParts?_feature_of_ne _ _ _ (by decide), Option.bind_none]

lemma Marker.ofFeature?_styledLine (styled : StyledLine Float) :
    ofFeature? styled.toFeature = none := by
  rw [ofFeature?, StyledLine.toFeature, featureParts?_feature_of_ne _ _ _ (by decide),
    Option.bind_none]

/-- Everything that is drawn can be read off the feature collection. -/
lemma ofFeatureCollection?_featureCollection (lines : List (StyledLine Float))
    (markers : List (Marker Float)) :
    ofFeatureCollection? (featureCollection lines markers) = some (lines, markers) := by
  have hfeatures : (featureCollection lines markers).get? "features" =
      some (.list (lines.map StyledLine.toFeature ++ markers.map Marker.toFeature)) := rfl
  have hlines : (lines.map StyledLine.toFeature ++ markers.map Marker.toFeature).filterMap
      StyledLine.ofFeature? = lines := by
    simp [List.filterMap_append, List.filterMap_map,
      StyledLine.ofFeature?_toFeature, StyledLine.ofFeature?_marker]
  have hmarkers : (lines.map StyledLine.toFeature ++ markers.map Marker.toFeature).filterMap
      Marker.ofFeature? = markers := by
    simp [List.filterMap_append, List.filterMap_map,
      Marker.ofFeature?_toFeature, Marker.ofFeature?_styledLine]
  rw [ofFeatureCollection?, hfeatures]
  simp only [hlines, hmarkers]

/-! ### The same data -/

/-- An object and a feature hold the same data.  What the object has under the given key are the
coordinates of the feature, and the rest of it, which is just what is set of the looks, are its
properties. -/
structure SameData (geometryType key : String) (looks : List (String × Option Value))
    (entry feature : Value) : Prop where
  type : feature.get? "type" = some (.text "Feature")
  geometryType : geometryType? feature = some (geometryType : Text)
  coordinates : ∃ coordinates, entry.get? key = some coordinates ∧
    coordinates? feature = some coordinates
  properties : feature.get? "properties" = some (entry.without key)
  looks : (entry.without key).HoldsJust looks

lemma sameData_feature {geometryType key : String} {looks : List (String × Option Value)}
    (hkey : key ∉ looks.map Prod.fst) (hnodup : (looks.map Prod.fst).Nodup) (coordinates : Value) :
    SameData geometryType key looks
      (.object ((.text key, coordinates) :: Value.presentFields looks))
      (feature geometryType coordinates (Value.presentFields looks)) where
  type := rfl
  geometryType := geometryType?_feature _ _ _
  coordinates := by
    refine ⟨coordinates, ?_, coordinates?_feature _ _ _⟩
    rw [Value.get?, Value.field?_cons, if_pos rfl]
  properties := by
    rw [Value.without_cons_presentFields hkey, properties_feature]
  looks := by
    rw [Value.without_cons_presentFields hkey]
    exact Value.holdsJust_presentFields hnodup

lemma StyledLine.sameData (styled : StyledLine Float) :
    SameData "LineString" "points" styled.style.looks styled.toValue styled.toFeature :=
  sameData_feature styled.style.points_notMem_looks styled.style.nodup_looks styled.line.toValue

lemma Marker.sameData (m : Marker Float) :
    SameData "Point" "lonLat" m.looks m.toValue m.toFeature :=
  sameData_feature m.lonLat_notMem_looks m.nodup_looks m.point.toValue

/-- **Two ways to write lines and markers, with the same data.**  The feature collection has a
feature for each line and then one for each marker.  The feature of a line is of kind `LineString`;
its coordinates are the points of the object at the same position in the list of objects, and its
properties are what else that object holds: what is set of the style, and nothing else.  The same
holds of the features of markers, which are of kind `Point`.  Lines with their styles and markers
can be read back, off the feature collection as well as off the objects. -/
theorem featureCollection_sameData (lines : List (StyledLine Float))
    (markers : List (Marker Float)) :
    (∃ entries features, linesToValue lines = .list entries ∧ entries.length = lines.length ∧
      (featureCollection lines markers).get? "type" = some (.text "FeatureCollection") ∧
      (featureCollection lines markers).get? "features" = some (.list features) ∧
      features.length = lines.length + markers.length ∧
      (∀ (i : ℕ) (styled : StyledLine Float), lines[i]? = some styled →
        ∃ entry feature, entries[i]? = some entry ∧ features[i]? = some feature ∧
          SameData "LineString" "points" styled.style.looks entry feature) ∧
      ∀ (i : ℕ) (m : Marker Float), markers[i]? = some m →
        ∃ feature, features[lines.length + i]? = some feature ∧
          SameData "Point" "lonLat" m.looks m.toValue feature) ∧
    ofFeatureCollection? (featureCollection lines markers) = some (lines, markers) ∧
    linesOfValue? (linesToValue lines) = some lines ∧
    ∀ m : Marker Float, Marker.ofValue? m.toValue = some m := by
  refine ⟨⟨lines.map StyledLine.toValue,
    lines.map StyledLine.toFeature ++ markers.map Marker.toFeature, rfl, by simp, rfl, rfl, by simp,
    ?_, ?_⟩, ofFeatureCollection?_featureCollection lines markers,
    linesOfValue?_linesToValue lines, Marker.ofValue?_toValue⟩
  · intro i styled hstyled
    have hi : i < (lines.map StyledLine.toFeature).length := by
      obtain ⟨hlt, -⟩ := List.getElem?_eq_some_iff.1 hstyled
      simpa using hlt
    refine ⟨styled.toValue, styled.toFeature, ?_, ?_, styled.sameData⟩
    · rw [List.getElem?_map, hstyled, Option.map_some]
    · rw [List.getElem?_append_left hi, List.getElem?_map, hstyled, Option.map_some]
  · intro i m hm
    refine ⟨m.toFeature, ?_, m.sameData⟩
    have hlength : (lines.map StyledLine.toFeature).length ≤ lines.length + i := by
      simp
    rw [List.getElem?_append_right hlength, List.length_map, Nat.add_sub_cancel_left,
      List.getElem?_map, hm, Option.map_some]

end GreatCircle
