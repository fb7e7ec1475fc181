/-
# Which documents are catalogs

`Value.IsWellFormed` says what an entry of a catalog has to be like: an object with a name that can
be written out and is not blank, and with two coordinates that stand for doubles within range.  Just
these entries are read as cities (`Value.isCity_iff`), and an entry that is not is refused in words,
unless one of its coordinates is a whole number beyond all doubles
(`Value.toCity_eq_hugeNumber_iff`).

So a document is taken just if it has a list of well-formed entries, and otherwise the first entry
that is not well-formed is named, whatever follows it: `Catalog.ofValue_accepts`.  Only numbers
beyond all doubles are an exception, and `Catalog.ofValue_escapes_iff` says where they are met.
-/
import GreatCircle.Proofs.City.Coordinates
import GreatCircle.Proofs.Decimal.DoubleRange

namespace GreatCircle

namespace Value

/-! ### Entries -/

/-- A whole number that is rounded to infinity: it has no double. -/
def IsHuge (v : Value) : Prop := ∃ n : Int, v = .int n ∧ 2 ^ 1024 - 2 ^ 970 ≤ n.natAbs

lemma toCoordinate_eq_hugeNumber_iff {v : Value} :
    v.toCoordinate = .error .hugeNumber ↔ v.IsHuge := by
  constructor
  · intro h
    cases v with
    | int n =>
      refine ⟨n, rfl, Decimal.ofInt?_eq_none_iff.1 ?_⟩
      rw [toCoordinate] at h
      cases hn : Decimal.ofInt? n with
      | none => rfl
      | some y =>
        rw [hn] at h
        contradiction
    | text t =>
      obtain ⟨_, -, hfault⟩ := mapError_eq_error.1 h
      contradiction
    | bytes b =>
      obtain ⟨_, -, hfault⟩ := mapError_eq_error.1 h
      contradiction
    | _ => simp [toCoordinate] at h
  · rintro ⟨n, rfl, hn⟩
    rw [toCoordinate, Decimal.ofInt?_eq_none_iff.2 hn]

/-- The value is an object with a field of some value. -/
def HasField (entry : Value) (name : String) (v : Value) : Prop :=
  ∃ fields, entry = .object fields ∧ field? name fields = some v

/-- An entry of a catalog as it has to be. -/
inductive IsWellFormed (entry : Value) : Prop
  | intro {name lat lon : Value} {y x : Float}
      (hasName : entry.HasField "name" name) (writable : name.isWritable = true)
      (notBlank : ∃ c ∈ name.shown.points, Text.isBlank c = false)
      (hasLat : entry.HasField "lat" lat) (latStands : lat.StandsFor y)
      (hasLon : entry.HasField "lon" lon) (lonStands : lon.StandsFor x)
      (onGlobe : GeoPoint.IsOnGlobe y x)

/-- An entry with a name and with a coordinate that has no double.  A latitude that is no number
would be refused before the longitude is looked at. -/
inductive IsBeyondDoubles (entry : Value) : Prop
  | lat {name lat : Value}
      (hasName : entry.HasField "name" name) (writable : name.isWritable = true)
      (hasLat : entry.HasField "lat" lat) (huge : lat.IsHuge)
  | lon {name lat lon : Value} {y : Float}
      (hasName : entry.HasField "name" name) (writable : name.isWritable = true)
      (hasLat : entry.HasField "lat" lat) (latStands : lat.StandsFor y)
      (hasLon : entry.HasField "lon" lon) (huge : lon.IsHuge)

/-- The name of an entry, written out and without the white space around it. -/
def readName (entry : Value) : Except EntryStop Text := do
  let name ← (entry.entryField "name").mapError EntryStop.fault
  if name.isWritable then .ok (Text.strip name.shown) else .error (.fault .longName)

/-- A coordinate of an entry. -/
def readCoordinate (field : String) (entry : Value) : Except EntryStop Float :=
  (entry.entryField field).mapError EntryStop.fault >>= toCoordinate

section Reading

variable {entry v : Value} {field : String}

lemma entryField_eq_ok_iff : entry.entryField field = .ok v ↔ entry.HasField field v := by
  rw [HasField]
  cases entry with
  | object fields =>
    rw [entryField]
    cases hfield : field? field fields with
    | none => simp [hfield]
    | some w => simp [hfield]
  | again isObject => cases isObject <;> simp [entryField]
  | _ => simp [entryField]

/-- The steps by which an entry is read. -/
lemma toCity_eq (entry : Value) :
    entry.toCity = (do
      let name ← entry.readName
      let y ← entry.readCoordinate "lat"
      let x ← entry.readCoordinate "lon"
      ((GeoPoint.ofCoordinates y x).map (City.mk name)).mapError fun fault =>
        .fault (.coordinates fault)) := by
  unfold toCity readName readCoordinate
  simp only [bind_assoc]
  refine bind_congr fun name => ?_
  cases name.isWritable with
  | false => rfl
  | true =>
    refine bind_congr fun lat => bind_congr fun y => bind_congr fun lon => bind_congr fun x => ?_
    cases GeoPoint.ofCoordinates y x <;> rfl

lemma readName_eq_ok_iff {name : Text} :
    entry.readName = .ok name ↔ ∃ v, entry.HasField "name" v ∧ v.isWritable = true ∧
      Text.strip v.shown = name := by
  constructor
  · intro h
    obtain ⟨v, hv, hname⟩ := bind_eq_ok.1 h
    refine ⟨v, entryField_eq_ok_iff.1 (mapError_eq_ok.1 hv), ?_⟩
    cases hwritable : v.isWritable with
    | false =>
      rw [hwritable] at hname
      contradiction
    | true =>
      rw [hwritable] at hname
      exact ⟨rfl, Except.ok.inj hname⟩
  · rintro ⟨v, hv, hwritable, rfl⟩
    exact bind_eq_ok.2 ⟨v, mapError_eq_ok.2 (entryField_eq_ok_iff.2 hv), if_pos hwritable⟩

lemma readName_ne_hugeNumber (entry : Value) : entry.readName ≠ .error .hugeNumber := by
  intro h
  rcases bind_eq_error.1 h with hfield | ⟨v, -, hname⟩
  · obtain ⟨_, -, hfault⟩ := mapError_eq_error.1 hfield
    contradiction
  · cases hwritable : v.isWritable with
    | false => simp [hwritable] at hname
    | true => simp [hwritable] at hname

lemma readCoordinate_eq_ok_iff {x : Float} :
    entry.readCoordinate field = .ok x ↔ ∃ v, entry.HasField field v ∧ v.StandsFor x := by
  rw [readCoordinate]
  refine bind_eq_ok.trans ?_
  simp only [mapError_eq_ok, entryField_eq_ok_iff, toCoordinate_eq_ok_iff]

lemma readCoordinate_eq_hugeNumber_iff :
    entry.readCoordinate field = .error .hugeNumber ↔ ∃ v, entry.HasField field v ∧ v.IsHuge := by
  constructor
  · intro h
    rcases bind_eq_error.1 h with hfield | ⟨v, hv, hhuge⟩
    · obtain ⟨_, -, hfault⟩ := mapError_eq_error.1 hfield
      contradiction
    · exact ⟨v, entryField_eq_ok_iff.1 (mapError_eq_ok.1 hv),
        toCoordinate_eq_hugeNumber_iff.1 hhuge⟩
  · rintro ⟨v, hv, hhuge⟩
    exact bind_eq_error.2 (Or.inr ⟨v, mapError_eq_ok.2 (entryField_eq_ok_iff.2 hv),
      toCoordinate_eq_hugeNumber_iff.2 hhuge⟩)

/-- Just the well-formed entries are taken as cities. -/
lemma isCity_iff : entry.IsCity ↔ entry.IsWellFormed := by
  constructor
  · rintro ⟨city, hcity, hblank⟩
    rw [toCity_eq] at hcity
    obtain ⟨_, hread, hcity⟩ := bind_eq_ok.1 hcity
    obtain ⟨y, hy, hcity⟩ := bind_eq_ok.1 hcity
    obtain ⟨x, hx, hcity⟩ := bind_eq_ok.1 hcity
    obtain ⟨place, hplace, rfl⟩ := map_eq_ok.1 (mapError_eq_ok.1 hcity)
    obtain ⟨name, hname, hwritable, rfl⟩ := readName_eq_ok_iff.1 hread
    obtain ⟨lat, hlat, hy⟩ := readCoordinate_eq_ok_iff.1 hy
    obtain ⟨lon, hlon, hx⟩ := readCoordinate_eq_ok_iff.1 hx
    obtain ⟨honGlobe, -⟩ := GeoPoint.ofCoordinates_eq_ok_iff.1 hplace
    exact ⟨hname, hwritable, Text.strip_ne_empty_iff.1 hblank, hlat, hy, hlon, hx, honGlobe⟩
  · rintro @⟨name, _, _, _, _, hname, hwritable, hblank, hlat, hy, hlon, hx, honGlobe⟩
    have hplace := GeoPoint.ofCoordinates_eq_ok_iff.2 ⟨honGlobe, rfl⟩
    refine ⟨⟨Text.strip name.shown, honGlobe.place⟩, ?_, Text.strip_ne_empty_iff.2 hblank⟩
    rw [toCity_eq]
    refine bind_eq_ok.2 ⟨_, readName_eq_ok_iff.2 ⟨_, hname, hwritable, rfl⟩, ?_⟩
    refine bind_eq_ok.2 ⟨_, readCoordinate_eq_ok_iff.2 ⟨_, hlat, hy⟩, ?_⟩
    refine bind_eq_ok.2 ⟨_, readCoordinate_eq_ok_iff.2 ⟨_, hlon, hx⟩, ?_⟩
    exact mapError_eq_ok.2 (map_eq_ok.2 ⟨_, hplace, rfl⟩)

/-- An entry that something is wrong with is not well-formed. -/
lemma not_isWellFormed_of_entryFault? {index : ℕ} {fault : CatalogFault}
    (h : entry.entryFault? index = some fault) : ¬ entry.IsWellFormed := by
  intro hgood
  have hnone : entry.entryFault? index = none :=
    entryFault?_eq_none_iff.2 (isCity_iff.2 hgood)
  rw [h] at hnone
  contradiction

/-- An entry is refused without a word just if a coordinate of it has no double. -/
lemma toCity_eq_hugeNumber_iff : entry.toCity = .error .hugeNumber ↔ entry.IsBeyondDoubles := by
  rw [toCity_eq]
  constructor
  · intro h
    rcases bind_eq_error.1 h with hread | ⟨_, hread, h⟩
    · exact absurd hread entry.readName_ne_hugeNumber
    obtain ⟨name, hname, hwritable, rfl⟩ := readName_eq_ok_iff.1 hread
    rcases bind_eq_error.1 h with hlat | ⟨y, hy, h⟩
    · obtain ⟨lat, hlat, hhuge⟩ := readCoordinate_eq_hugeNumber_iff.1 hlat
      exact .lat hname hwritable hlat hhuge
    obtain ⟨lat, hlat, hy⟩ := readCoordinate_eq_ok_iff.1 hy
    rcases bind_eq_error.1 h with hlon | ⟨x, -, h⟩
    · obtain ⟨lon, hlon, hhuge⟩ := readCoordinate_eq_hugeNumber_iff.1 hlon
      exact .lon hname hwritable hlat hy hlon hhuge
    · obtain ⟨_, -, hfault⟩ := mapError_eq_error.1 h
      contradiction
  · rintro (⟨hname, hwritable, hlat, hhuge⟩ | ⟨hname, hwritable, hlat, hy, hlon, hhuge⟩)
    · refine bind_eq_error.2 (Or.inr ⟨_, readName_eq_ok_iff.2 ⟨_, hname, hwritable, rfl⟩, ?_⟩)
      exact bind_eq_error.2 (Or.inl (readCoordinate_eq_hugeNumber_iff.2 ⟨_, hlat, hhuge⟩))
    · refine bind_eq_error.2 (Or.inr ⟨_, readName_eq_ok_iff.2 ⟨_, hname, hwritable, rfl⟩, ?_⟩)
      refine bind_eq_error.2 (Or.inr ⟨_, readCoordinate_eq_ok_iff.2 ⟨_, hlat, hy⟩, ?_⟩)
      exact bind_eq_error.2 (Or.inl (readCoordinate_eq_hugeNumber_iff.2 ⟨_, hlon, hhuge⟩))

end Reading

end Value

/-! ### Documents -/

namespace Value

variable {document : Value} {entries : List Value}

/-- The document has a list of cities with these entries. -/
def HasCities (document : Value) (entries : List Value) : Prop :=
  document.HasField "cities" (.list entries)

/-- Where a latitude or a longitude of a listed entry is a whole number, it has a double. -/
def FitsDoubles (document : Value) : Prop :=
  ∀ entries, document.HasCities entries → ∀ entry ∈ entries, ∀ v,
    entry.HasField "lat" v ∨ entry.HasField "lon" v → ¬ v.IsHuge

lemma cityList?_eq_some_iff : document.cityList? = some entries ↔ document.HasCities entries := by
  rw [HasCities, HasField]
  cases document with
  | object fields =>
    rw [cityList?]
    constructor
    · intro h
      split at h
      · rename_i found hfield
        obtain rfl := Option.some.inj h
        exact ⟨fields, rfl, hfield⟩
      · contradiction
    · rintro ⟨_, hobject, hfield⟩
      obtain rfl := Value.object.inj hobject
      rw [hfield]
  | _ => simp [cityList?]

/-- A coordinate of a listed entry has no double, and all entries before are well-formed. -/
def ReachesHuge (document : Value) : Prop :=
  ∃ before entry after, document.HasCities (before ++ entry :: after) ∧
    (∀ e ∈ before, e.IsWellFormed) ∧ entry.IsBeyondDoubles

lemma FitsDoubles.not_isBeyondDoubles (fits : document.FitsDoubles)
    (hcities : document.HasCities entries) {entry : Value} (hentry : entry ∈ entries) :
    ¬ entry.IsBeyondDoubles := by
  rintro (⟨-, -, hlat, hhuge⟩ | ⟨-, -, -, -, hlon, hhuge⟩)
  · exact fits entries hcities entry hentry _ (Or.inl hlat) hhuge
  · exact fits entries hcities entry hentry _ (Or.inr hlon) hhuge

end Value

namespace CatalogFault

/-- The fault is one that is told in words, whatever the file is called. -/
def IsWorded (fault : CatalogFault) : Prop := ∀ path, ∃ message, fault.message? path = some message

/-- The fault is told in words, and these name the entry of an index. -/
def Names (fault : CatalogFault) (index : ℕ) : Prop :=
  ∀ path, ∃ rest : Text,
    fault.message? path =
        some (path ++ ": invalid city entry #" ++ toString index ++ ": " ++ rest) ∨
      fault.message? path =
        some (path ++ ": city entry #" ++ toString index ++ " has an empty name.")

lemma Names.isWorded {fault : CatalogFault} {index : ℕ} (h : fault.Names index) :
    fault.IsWorded := by
  intro path
  obtain ⟨_, hmessage | hmessage⟩ := h path
  · exact ⟨_, hmessage⟩
  · exact ⟨_, hmessage⟩

/-- What is wrong with an entry is told under its index, unless it is a number without a double. -/
lemma names_of_entryFault? {index : ℕ} {entry : Value} {fault : CatalogFault}
    (h : entry.entryFault? index = some fault) (hhuge : ¬ entry.IsBeyondDoubles) :
    fault.Names index := by
  intro path
  rw [Value.entryFault?] at h
  split at h
  · rename_i found _
    obtain rfl := Option.some.inj h
    exact ⟨found.message, Or.inl rfl⟩
  · rename_i hcity
    exact absurd (Value.toCity_eq_hugeNumber_iff.1 hcity) hhuge
  · split at h
    · obtain rfl := Option.some.inj h
      exact ⟨"", Or.inr rfl⟩
    · contradiction

end CatalogFault

namespace Catalog

variable {document : Value} {entries : List Value}

lemma ofValue_of_hasCities (h : document.HasCities entries) :
    ofValue document = empty.addEntries 0 entries := by
  rw [ofValue, Value.cityList?_eq_some_iff.2 h]

lemma ofValue_of_forall_not_hasCities (h : ∀ entries, ¬ document.HasCities entries) :
    ofValue document = .error .noList := by
  rw [ofValue]
  cases hlist : document.cityList? with
  | none => rfl
  | some entries => exact absurd (Value.cityList?_eq_some_iff.1 hlist) (h entries)

/-- Entries are taken just if all of them are well-formed. -/
lemma exists_addEntries_eq_ok_iff {catalog : Catalog} {index : ℕ} :
    (∃ next, catalog.addEntries index entries = .ok next) ↔ ∀ e ∈ entries, e.IsWellFormed := by
  induction entries generalizing catalog index with
  | nil => simp [addEntries]
  | cons entry rest ih =>
    rw [List.forall_mem_cons]
    cases hfault : entry.entryFault? index with
    | some fault =>
      simp [addEntries_cons_of_fault hfault, Value.not_isWellFormed_of_entryFault? hfault]
    | none =>
      have hcity := Value.entryFault?_eq_none_iff.1 hfault
      obtain ⟨next, hnext⟩ := addEntries_cons_of_isCity catalog index rest hcity
      rw [hnext, ih, and_iff_right (Value.isCity_iff.1 hcity)]

lemma exists_ofValue_eq_ok_iff :
    (∃ catalog, ofValue document = .ok catalog) ↔
      ∃ entries, document.HasCities entries ∧ ∀ e ∈ entries, e.IsWellFormed := by
  constructor
  · rintro ⟨catalog, hcatalog⟩
    by_cases hlist : ∃ entries, document.HasCities entries
    · obtain ⟨entries, hcities⟩ := hlist
      rw [ofValue_of_hasCities hcities] at hcatalog
      exact ⟨entries, hcities, exists_addEntries_eq_ok_iff.1 ⟨catalog, hcatalog⟩⟩
    · rw [ofValue_of_forall_not_hasCities (not_exists.1 hlist)] at hcatalog
      contradiction
  · rintro ⟨entries, hcities, hgood⟩
    rw [ofValue_of_hasCities hcities]
    exact exists_addEntries_eq_ok_iff.2 hgood

/-- A list with an entry that is not well-formed is refused for the first such entry, and so is
every list that begins in the same way. -/
lemma exists_first_fault (hhuge : ∀ e ∈ entries, ¬ e.IsBeyondDoubles)
    (hill : ∃ e ∈ entries, ¬ e.IsWellFormed) :
    ∃ index fault, IsLeast {i | ∃ e, entries[i]? = some e ∧ ¬ e.IsWellFormed} index ∧
      fault.Names index ∧ ∀ other others, other.HasCities others →
        others.take (index + 1) = entries.take (index + 1) → ofValue other = .error fault := by
  obtain ⟨fault, hfault⟩ : ∃ fault, empty.addEntries 0 entries = .error fault := by
    cases hadd : empty.addEntries 0 entries with
    | error fault => exact ⟨fault, rfl⟩
    | ok catalog =>
      obtain ⟨e, he, hnot⟩ := hill
      exact absurd (exists_addEntries_eq_ok_iff.1 ⟨catalog, hadd⟩ e he) hnot
  obtain ⟨before, entry, after, rfl, hbefore, hentry⟩ := addEntries_eq_error_iff.1 hfault
  rw [Nat.zero_add] at hentry
  have hnot := Value.not_isWellFormed_of_entryFault? hentry
  refine ⟨before.length, fault, ⟨⟨entry, by simp, hnot⟩, ?_⟩, ?_, ?_⟩
  · rintro i ⟨e, he, hill⟩
    by_contra hlt
    rw [List.getElem?_append_left (by omega)] at he
    exact hill (Value.isCity_iff.1 (hbefore e (List.mem_of_getElem? he)))
  · exact CatalogFault.names_of_entryFault? hentry (hhuge entry (by simp))
  · intro other others hothers htake
    have hsplit : others = before ++ entry :: others.drop (before.length + 1) := by
      have htaken : (before ++ entry :: after).take (before.length + 1) = before ++ [entry] := by
        simp [List.take_append, List.take_of_length_le]
      conv_lhs => rw [← List.take_append_drop (before.length + 1) others, htake, htaken]
      rw [List.append_assoc]
      rfl
    rw [ofValue_of_hasCities hothers]
    refine addEntries_eq_error_iff.2 ⟨before, entry, _, hsplit, hbefore, ?_⟩
    rwa [Nat.zero_add]

/-- **Which documents are taken.**  As long as no coordinate is a whole number beyond all doubles, a
document is taken just if it is an object with a list of well-formed cities.  Any other is refused
in words; if it has a list of cities, these name the first entry that is not well-formed, and
whatever comes after that entry makes no difference.  A file that is read as the document, in
whatever way, is taken or refused as the document is. -/
theorem ofValue_accepts (fits : document.FitsDoubles) :
    ((∃ catalog, ofValue document = .ok catalog) ↔
      ∃ entries, document.HasCities entries ∧ ∀ e ∈ entries, e.IsWellFormed) ∧
    ((∃ catalog, ofValue document = .ok catalog) ∨
      ∃ fault, ofValue document = .error fault ∧ fault.IsWorded) ∧
    (∀ entries, document.HasCities entries → (∃ e ∈ entries, ¬ e.IsWellFormed) →
      ∃ index fault, IsLeast {i | ∃ e, entries[i]? = some e ∧ ¬ e.IsWellFormed} index ∧
        fault.Names index ∧ ofValue document = .error fault ∧
        ∀ other others, other.HasCities others →
          others.take (index + 1) = entries.take (index + 1) → ofValue other = .error fault) ∧
    ∀ (reader : DocumentReader) bytes text,
      Text.ofBytes? bytes = some text → reader text = .ok document →
      ofBytes bytes reader = ofValue document := by
  refine ⟨exists_ofValue_eq_ok_iff, ?_, fun entries hcities hill => ?_,
    fun reader bytes text => ofBytes_of_read⟩
  · by_cases hlist : ∃ entries, document.HasCities entries
    · obtain ⟨entries, hcities⟩ := hlist
      by_cases hgood : ∀ e ∈ entries, e.IsWellFormed
      · exact Or.inl (exists_ofValue_eq_ok_iff.2 ⟨entries, hcities, hgood⟩)
      · obtain ⟨index, fault, -, hnames, hfault⟩ :=
          exists_first_fault (fun e => fits.not_isBeyondDoubles hcities) (by simpa using hgood)
        exact Or.inr ⟨fault, hfault document entries hcities rfl, hnames.isWorded⟩
    · exact Or.inr ⟨.noList, ofValue_of_forall_not_hasCities (not_exists.1 hlist),
        fun path => ⟨_, rfl⟩⟩
  · obtain ⟨index, fault, hleast, hnames, hfault⟩ :=
      exists_first_fault (fun e => fits.not_isBeyondDoubles hcities) hill
    exact ⟨index, fault, hleast, hnames, hfault document entries hcities rfl, hfault⟩

/-- A latitude that is out of range after a good entry, and before one that is no object. -/
theorem ofValue_accepts_first_only :
    let first : Value := .object [(.text "name", .text "Nome"), (.text "lat", .float 64.5),
      (.text "lon", .text "-165.4")]
    let second : Value := .object [(.text "name", .text "Beyond"), (.text "lat", .int 91),
      (.text "lon", .int 0)]
    let document : Value := .object [(.text "cities", .list [first, second, .null])]
    document.FitsDoubles ∧ ∃ fault, ofValue document = .error fault ∧ fault.Names 1 := by
  intro first second document
  have hcities : document.HasCities [first, second, .null] := Value.cityList?_eq_some_iff.1 rfl
  have fits : document.FitsDoubles := by
    rintro entries hentries entry hentry v hv ⟨n, rfl, hhuge⟩
    obtain rfl : [first, second, .null] = entries :=
      Option.some.inj (Value.cityList?_eq_some_iff.2 hentries)
    rw [← Value.entryField_eq_ok_iff, ← Value.entryField_eq_ok_iff] at hv
    suffices hn : n = 91 ∨ n = 0 by
      rcases hn with rfl | rfl
      · exact absurd hhuge (by decide +kernel)
      · exact absurd hhuge (by decide +kernel)
    clear hhuge
    simp only [List.mem_cons, List.not_mem_nil, or_false] at hentry
    rcases hentry with rfl | rfl | rfl
    · rcases hv with hlat | hlon
      · have hfloat : Value.float 64.5 = .int n := Except.ok.inj hlat
        contradiction
      · have htext : Value.text "-165.4" = .int n := Except.ok.inj hlon
        contradiction
    · rcases hv with hlat | hlon
      · exact Or.inl (Value.int.inj (Except.ok.inj hlat)).symm
      · exact Or.inr (Value.int.inj (Except.ok.inj hlon)).symm
    · rcases hv with hlat | hlon <;> contradiction
  have hfirst : first.IsWellFormed := by
    have hfault : (first.entryFault? 0).isNone = true := by decide +kernel
    exact Value.isCity_iff.1 (Value.entryFault?_eq_none_iff.1 (Option.isNone_iff_eq_none.1 hfault))
  have hsecond : ¬ second.IsWellFormed := by
    have hfault : (second.entryFault? 1).isSome = true := by decide +kernel
    obtain ⟨fault, hfault⟩ := Option.isSome_iff_exists.1 hfault
    exact Value.not_isWellFormed_of_entryFault? hfault
  obtain ⟨-, -, hfaults, -⟩ := ofValue_accepts fits
  obtain ⟨index, fault, hleast, hnames, hfault, -⟩ :=
    hfaults _ hcities ⟨second, by simp, hsecond⟩
  have hone : IsLeast {i | ∃ e, [first, second, Value.null][i]? = some e ∧ ¬ e.IsWellFormed} 1 := by
    refine ⟨⟨second, rfl, hsecond⟩, ?_⟩
    rintro i ⟨e, he, hill⟩
    by_contra hlt
    obtain rfl : i = 0 := by omega
    obtain rfl := Option.some.inj he
    exact hill hfirst
  obtain rfl := hleast.unique hone
  exact ⟨fits, fault, hfault, hnames⟩

/-! ### Numbers beyond all doubles -/

lemma ofValue_eq_hugeNumber_iff_reachesHuge :
    ofValue document = .error .hugeNumber ↔ document.ReachesHuge := by
  rw [ofValue_eq_hugeNumber_iff]
  simp only [Value.cityList?_eq_some_iff, Value.isCity_iff, Value.toCity_eq_hugeNumber_iff]
  rfl

lemma not_isWorded_hugeNumber : ¬ CatalogFault.hugeNumber.IsWorded := by
  intro h
  obtain ⟨_, hmessage⟩ := h ""
  contradiction

/-- A document is refused without a word just for a coordinate that has no double. -/
lemma taken_or_worded_iff :
    ((∃ catalog, ofValue document = .ok catalog) ∨
        ∃ fault, ofValue document = .error fault ∧ fault.IsWorded) ↔
      ofValue document ≠ .error .hugeNumber := by
  constructor
  · rintro (⟨catalog, hcatalog⟩ | ⟨fault, hfault, hworded⟩) hhuge
    · rw [hcatalog] at hhuge
      contradiction
    · obtain rfl := Except.error.inj (hfault.symm.trans hhuge)
      exact not_isWorded_hugeNumber hworded
  · intro hhuge
    cases hvalue : ofValue document with
    | ok catalog => exact Or.inl ⟨catalog, rfl⟩
    | error fault =>
      refine Or.inr ⟨fault, rfl, fun path => Option.ne_none_iff_exists'.1 fun hmessage => hhuge ?_⟩
      rw [hvalue, eq_hugeNumber_of_ofValue hvalue hmessage]

/-- **What escapes all wording.**  A document gives a catalog or is refused in words, unless a
coordinate without a double is come upon before anything else is wrong; then there is neither.  A
file that is read as the document, in whatever way, ends as the document does. -/
theorem ofValue_escapes_iff (document : Value) :
    (((∃ catalog, ofValue document = .ok catalog) ∨
        ∃ fault, ofValue document = .error fault ∧ fault.IsWorded) ↔ ¬ document.ReachesHuge) ∧
      (document.ReachesHuge ↔ ofValue document = .error .hugeNumber) ∧
      ∀ (reader : DocumentReader) bytes text,
        Text.ofBytes? bytes = some text → reader text = .ok document →
        ofBytes bytes reader = ofValue document := by
  rw [taken_or_worded_iff, ← ofValue_eq_hugeNumber_iff_reachesHuge]
  exact ⟨Iff.rfl, Iff.rfl, fun reader bytes text => ofBytes_of_read⟩

/-- A city so far to the north that its latitude has no double. -/
theorem ofValue_escapes_at_huge_latitude :
    let document : Value := .object [(.text "cities", .list [.object [(.text "name", .text "Far"),
      (.text "lat", .int (Nat.pow 10 309)), (.text "lon", .int 0)]])]
    ofValue document = .error .hugeNumber ∧
      ¬ ((∃ catalog, ofValue document = .ok catalog) ∨
        ∃ fault, ofValue document = .error fault ∧ fault.IsWorded) := by
  intro document
  have hlat : (Value.int (Nat.pow 10 309)).IsHuge := by
    refine ⟨_, rfl, ?_⟩
    decide +kernel
  have hescapes : ofValue document = .error .hugeNumber :=
    ofValue_eq_hugeNumber_iff_reachesHuge.2 ⟨[], _, [], Value.cityList?_eq_some_iff.1 rfl, by simp,
      .lat (Value.entryField_eq_ok_iff.1 rfl) rfl (Value.entryField_eq_ok_iff.1 rfl) hlat⟩
  exact ⟨hescapes, fun h => taken_or_worded_iff.1 h hescapes⟩

end Catalog

end GreatCircle
