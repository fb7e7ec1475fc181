/-
# Which city stands under a key

A catalog is filled entry by entry, and an entry may take the key of an earlier one.  So the keys
come in the order in which they first appear, while under each of them stands the city of its last
entry (`Catalog.keys_overlay`, `Catalog.find?_overlay`).  Laid over other cities in the same way, a
catalog hides just those under its own keys.

A text is taken for a name before it is read as coordinates.  Both texts and names lose the white
space around them and their case, and a name that is not blank does not get lost by that
(`Text.lower_ne_empty`); so every text that comes to the same key as a name finds a city:
`Catalog.last_entry_found`.
-/
import Mathlib.Data.List.Forall2
import Mathlib.Data.List.Nodup
import GreatCircle.Command.Run
import GreatCircle.Proofs.City.FirstFault
import GreatCircle.Proofs.Settings.ConfigReads

namespace GreatCircle

/-! ### Lower case -/

namespace Text

/-- The runs of the mapping to lower case do not lead out of the table. -/
lemma mapByRuns_lowerRuns_lt {code : ℕ} (h : code < 0x110000) :
    mapByRuns lowerRuns code < 0x110000 := by
  have hruns : ∀ r ∈ lowerRuns.toList, ((r.last : Int) + r.offset).toNat < 0x110000 := by
    decide +kernel
  unfold mapByRuns
  split
  · rename_i r hr
    have hlast := hruns r (Array.mem_toList_iff.2 (Array.mem_of_find?_eq_some hr))
    have hfound := Array.find?_some hr
    simp only [decide_eq_true_eq] at hfound
    rw [Int.ofNat_eq_natCast]
    omega
  · exact h

lemma mapPoint_lower_ne_nil (c : CodePoint) : mapPoint lowerRuns lowerSpecial c ≠ [] := by
  have hspecial : ∀ e ∈ lowerSpecial.toList, e.2.filterMap CodePoint.ofNat? ≠ [] := by
    decide +kernel
  unfold mapPoint
  split
  · rename_i e he
    exact hspecial e (Array.mem_toList_iff.2 (Array.mem_of_find?_eq_some he))
  · rw [CodePoint.ofNat?, dif_pos (mapByRuns_lowerRuns_lt c.lt)]
    exact List.cons_ne_nil _ _

/-- No text gets lost in lower case. -/
lemma lower_ne_empty {t : Text} (h : t ≠ "") : lower t ≠ "" := by
  obtain ⟨points⟩ := t
  cases points with
  | nil => exact absurd rfl h
  | cons c rest =>
    intro hempty
    have hpoints : lowerFrom [] (c :: rest) = [] := congrArg points hempty
    rw [lowerFrom, List.append_eq_nil_iff] at hpoints
    obtain ⟨himage, -⟩ := hpoints
    split at himage
    · contradiction
    · unfold mapCommon at himage
      split at himage
      · contradiction
      · exact mapPoint_lower_ne_nil c himage

end Text

/-! ### Setting cities one after the other -/

/-- The key under which a city is set: its name in lower case. -/
def City.key (city : City) : Text := Text.lower city.name

namespace Catalog

/-- The keys in order. -/
def keys (catalog : Catalog) : List Text := catalog.entries.map Prod.fst

lemma map_fst_setEntry (key : Text) (city : City) (entries : List (Text × City)) :
    (setEntry key city entries).map Prod.fst =
      if key ∈ entries.map Prod.fst then entries.map Prod.fst
      else entries.map Prod.fst ++ [key] := by
  induction entries with
  | nil => rfl
  | cons e rest ih =>
    obtain ⟨k, old⟩ := e
    rw [setEntry]
    by_cases hk : k = key
    · simp [hk]
    · rw [if_neg hk, List.map_cons, List.map_cons, ih]
      by_cases hmem : key ∈ rest.map Prod.fst
      · rw [if_pos hmem, if_pos (List.mem_cons_of_mem k hmem)]
      · have hnew : key ∉ k :: rest.map Prod.fst := by
          rw [List.mem_cons, not_or]
          exact ⟨Ne.symm hk, hmem⟩
        rw [if_neg hmem, if_neg hnew]
        rfl

lemma keys_insert (catalog : Catalog) (key : Text) (city : City) :
    (catalog.insert key city).keys =
      if key ∈ catalog.keys then catalog.keys else catalog.keys ++ [key] :=
  map_fst_setEntry key city catalog.entries

lemma nodup_keys_insert {catalog : Catalog} (h : catalog.keys.Nodup) (key : Text) (city : City) :
    (catalog.insert key city).keys.Nodup := by
  rw [keys_insert]
  split
  · exact h
  · rename_i hnew
    rw [← List.concat_eq_append]
    exact List.Nodup.concat hnew h

/-- A catalog whose entries are laid over another one by one. -/
lemma overlay_cons (base : Catalog) (e : Text × City) (entries : List (Text × City)) :
    base.overlay ⟨e :: entries⟩ = (base.insert e.1 e.2).overlay ⟨entries⟩ := rfl

lemma nodup_keys_empty : empty.keys.Nodup := List.nodup_nil

lemma nodup_keys_overlay {base : Catalog} (h : base.keys.Nodup) (top : Catalog) :
    (base.overlay top).keys.Nodup := by
  obtain ⟨entries⟩ := top
  induction entries generalizing base with
  | nil => exact h
  | cons e entries ih =>
    rw [overlay_cons]
    exact ih (nodup_keys_insert h e.1 e.2)

lemma eraseDups_append_cons_of_mem {l m : List Text} {key : Text} (h : key ∈ l) :
    (l ++ key :: m).eraseDups = (l ++ m).eraseDups := by
  rw [List.eraseDups_append, List.eraseDups_append, List.cons_removeAll, if_neg]
  simpa using h

lemma eraseDups_of_nodup {l : List Text} (h : l.Nodup) : l.eraseDups = l := by
  induction l with
  | nil => rfl
  | cons key l ih =>
    obtain ⟨hnew, hnodup⟩ := List.nodup_cons.1 h
    rw [List.eraseDups_cons, List.filter_eq_self.2, ih hnodup]
    intro other hother
    have hne : other ≠ key := fun heq => hnew (heq ▸ hother)
    simp [hne]

/-- Keys come in the order in which they first appear. -/
theorem keys_overlay {base : Catalog} (h : base.keys.Nodup) (top : Catalog) :
    (base.overlay top).keys = (base.keys ++ top.keys).eraseDups := by
  obtain ⟨entries⟩ := top
  induction entries generalizing base with
  | nil =>
    change base.keys = (base.keys ++ []).eraseDups
    rw [List.append_nil, eraseDups_of_nodup h]
  | cons e entries ih =>
    rw [overlay_cons, ih (nodup_keys_insert h e.1 e.2), keys_insert]
    by_cases hmem : e.1 ∈ base.keys
    · rw [if_pos hmem]
      exact (eraseDups_append_cons_of_mem hmem).symm
    · rw [if_neg hmem, List.append_assoc]
      rfl

/-- Of several cities under a key the last one is found, and one of the other catalog only if there
is none. -/
theorem find?_overlay (base top : Catalog) (key : Text) :
    (base.overlay top).find? key =
      ((top.entries.findRev? fun e => e.1 == key).map Prod.snd).or (base.find? key) := by
  obtain ⟨entries⟩ := top
  induction entries generalizing base with
  | nil => rfl
  | cons e entries ih =>
    rw [overlay_cons, ih, find?_insert, List.findRev?]
    cases entries.findRev? fun e => e.1 == key with
    | some found => rfl
    | none =>
      by_cases hkey : key = e.1
      · simp [hkey]
      · simp [hkey, Ne.symm hkey]

end Catalog

/-! ### The cities of entries -/

lemma mapError_eq_ok {ε ε' β : Type} {x : Except ε β} {f : ε → ε'} {b : β} :
    x.mapError f = .ok b ↔ x = .ok b := by
  cases x <;> simp [Except.mapError]

lemma mapError_eq_error {ε ε' β : Type} {x : Except ε β} {f : ε → ε'} {e : ε'} :
    x.mapError f = .error e ↔ ∃ fault, x = .error fault ∧ f fault = e := by
  cases x <;> simp [Except.mapError]

lemma GeoPoint.ofCoordinates_eq_ok {lat lon : Float} {p : GeoPoint Float}
    (h : GeoPoint.ofCoordinates lat lon = .ok p) : p.lat = lat ∧ p.lon = lon := by
  unfold GeoPoint.ofCoordinates at h
  split at h
  · rename_i found hfound
    rw [← Except.ok.inj h]
    exact GeoPoint.ofDegrees_eq_ok hfound
  · contradiction

namespace Value

/-- What a city takes from its entry: the name, written out and without the white space around it,
which is not blank, and the two coordinates. -/
structure DescribesCity (entry : Value) (city : City) : Prop where
  name : ∃ name, entry.entryField "name" = .ok name ∧ city.name = Text.strip name.shown
  notBlank : city.name ≠ ""
  lat : ∃ lat, entry.entryField "lat" = .ok lat ∧ lat.toCoordinate = .ok city.location.lat
  lon : ∃ lon, entry.entryField "lon" = .ok lon ∧ lon.toCoordinate = .ok city.location.lon

lemma describesCity_of_toCity {entry : Value} {city : City} (h : entry.toCity = .ok city)
    (notBlank : city.name ≠ "") : entry.DescribesCity city := by
  unfold toCity at h
  obtain ⟨name, hname, h⟩ := bind_eq_ok.1 h
  split at h
  · contradiction
  · obtain ⟨-, -, h⟩ := bind_eq_ok.1 h
    obtain ⟨lat, hlat, h⟩ := bind_eq_ok.1 h
    obtain ⟨y, hy, h⟩ := bind_eq_ok.1 h
    obtain ⟨lon, hlon, h⟩ := bind_eq_ok.1 h
    obtain ⟨x, hx, h⟩ := bind_eq_ok.1 h
    rw [mapError_eq_ok] at hname hlat hlon
    cases hplace : GeoPoint.ofCoordinates y x with
    | error fault =>
      rw [hplace] at h
      contradiction
    | ok location =>
      rw [hplace] at h
      obtain rfl := Except.ok.inj h
      obtain ⟨rfl, rfl⟩ := GeoPoint.ofCoordinates_eq_ok hplace
      exact ⟨⟨name, hname, rfl⟩, notBlank, ⟨lat, hlat, hy⟩, ⟨lon, hlon, hx⟩⟩

end Value

namespace Catalog

/-- The cities of a list as entries of a catalog. -/
def ofCities (cities : List City) : Catalog := ⟨cities.map fun city => (city.key, city)⟩

/-- Entries that are taken are set one after the other. -/
lemma exists_of_addEntries_eq_ok {entries : List Value} {base catalog : Catalog} {index : ℕ}
    (h : base.addEntries index entries = .ok catalog) :
    ∃ cities, List.Forall₂ Value.DescribesCity entries cities ∧
      base.overlay (ofCities cities) = catalog := by
  induction entries generalizing base index with
  | nil => exact ⟨[], .nil, Except.ok.inj h⟩
  | cons entry rest ih =>
    cases hfault : entry.entryFault? index with
    | some fault =>
      rw [addEntries_cons_of_fault hfault] at h
      contradiction
    | none =>
      obtain ⟨city, hcity, hname⟩ := Value.entryFault?_eq_none_iff.1 hfault
      rw [addEntries_cons_of_toCity _ _ _ hcity hname] at h
      obtain ⟨cities, hcities, rfl⟩ := ih h
      exact ⟨city :: cities, .cons (Value.describesCity_of_toCity hcity hname) hcities, rfl⟩

lemma keys_ofCities (cities : List City) : (ofCities cities).keys = cities.map City.key := by
  rw [ofCities, keys, List.map_map]
  rfl

/-- The last city of a list under a key. -/
lemma findRev?_ofCities (cities : List City) (key : Text) :
    ((ofCities cities).entries.findRev? fun e => e.1 == key).map Prod.snd =
      cities.findRev? fun city => city.key == key := by
  rw [List.findRev?_eq_find?_reverse, List.findRev?_eq_find?_reverse, ofCities, ← List.map_reverse,
    List.find?_map, Option.map_map]
  exact congrFun Option.map_id_fun _

lemma find?_overlay_ofCities (base : Catalog) (cities : List City) (key : Text) :
    (base.overlay (ofCities cities)).find? key =
      (cities.findRev? fun city => city.key == key).or (base.find? key) := by
  rw [find?_overlay, findRev?_ofCities]

lemma exists_findRev?_of_mem {cities : List City} {city : City} (h : city ∈ cities) :
    ∃ last, (cities.findRev? fun other => other.key == city.key) = some last ∧
      last.key = city.key := by
  rw [List.findRev?_eq_find?_reverse]
  have hfound : (cities.reverse.find? fun other => other.key == city.key).isSome = true :=
    List.find?_isSome.2 ⟨city, List.mem_reverse.2 h, beq_self_eq_true city.key⟩
  obtain ⟨last, hlast⟩ := Option.isSome_iff_exists.1 hfound
  exact ⟨last, hlast, by simpa using List.find?_some hlast⟩

/-- A member of a catalog is found under its key. -/
lemma find?_of_mem_entries {catalog : Catalog} (h : catalog.keys.Nodup) {e : Text × City}
    (he : e ∈ catalog.entries) : catalog.find? e.1 = some e.2 := by
  obtain ⟨entries⟩ := catalog
  rw [find?]
  induction entries with
  | nil => contradiction
  | cons first rest ih =>
    obtain ⟨hnew, hnodup⟩ := List.nodup_cons.1 h
    rcases List.mem_cons.1 he with rfl | hrest
    · rw [List.find?_cons_of_pos (by simp), Option.map_some]
    · have hne : first.1 ≠ e.1 := fun heq => hnew (heq ▸ List.mem_map_of_mem hrest)
      rw [List.find?_cons_of_neg (by simpa using hne)]
      exact ih hnodup hrest

/-- Where the keys are all different, the last entry under a key is the only one. -/
lemma findRev?_entries_of_nodup {catalog : Catalog} (h : catalog.keys.Nodup) (key : Text) :
    (catalog.entries.findRev? fun e => e.1 == key).map Prod.snd = catalog.find? key := by
  cases hlast : catalog.entries.findRev? fun e => e.1 == key with
  | none =>
    rw [List.findRev?_eq_find?_reverse, List.find?_eq_none] at hlast
    rw [find?, List.find?_eq_none.2 fun e he => hlast e (List.mem_reverse.2 he)]
  | some e =>
    rw [List.findRev?_eq_find?_reverse] at hlast
    have hkey : e.1 = key := by simpa using List.find?_some hlast
    have he : e ∈ catalog.entries := List.mem_reverse.1 (List.mem_of_find?_eq_some hlast)
    rw [← hkey, find?_of_mem_entries h he, Option.map_some]

lemma find?_overlay_of_nodup (base : Catalog) {top : Catalog} (h : top.keys.Nodup) (key : Text) :
    (base.overlay top).find? key = (top.find? key).or (base.find? key) := by
  rw [find?_overlay, findRev?_entries_of_nodup h]

/-- A city is found by every text that comes to its key. -/
lemma resolve_of_find? {catalog : Catalog} {asked : Text} {city : City}
    (h : catalog.find? (keyOf asked) = some city) (hkey : keyOf asked ≠ "") :
    catalog.resolve asked = .ok city.location := by
  have hstrip : Text.strip asked ≠ "" := by
    intro hempty
    apply hkey
    rw [keyOf, hempty]
    rfl
  unfold resolve
  simp only [Option.getD_some, if_neg hstrip]
  rw [keyOf] at h
  rw [h]

/-- The keys of the cities that are known without a file. -/
lemma keys_default : default.keys =
    ["london", "new york", "beijing", "tokyo", "hawaii", "singapore", "hong kong"].map
      Text.ofString := by
  decide +kernel

lemma nodup_keys_default : default.keys.Nodup := by
  rw [keys_default]
  decide +kernel

lemma ne_empty_of_mem_keys_default {key : Text} (h : key ∈ default.keys) : key ≠ "" := by
  rw [keys_default] at h
  rintro rfl
  exact absurd h (by decide +kernel)

/-- The catalog of a document that is taken, told from its entries. -/
lemma exists_of_ofValue_eq_ok {document : Value} {catalog : Catalog}
    (h : ofValue document = .ok catalog) :
    ∃ entries cities, document.cityList? = some entries ∧
      List.Forall₂ Value.DescribesCity entries cities ∧
      empty.overlay (ofCities cities) = catalog := by
  unfold ofValue at h
  cases hlist : document.cityList? with
  | none =>
    rw [hlist] at h
    contradiction
  | some entries =>
    rw [hlist] at h
    obtain ⟨cities, hcities, hcatalog⟩ := exists_of_addEntries_eq_ok h
    exact ⟨entries, cities, rfl, hcities, hcatalog⟩

lemma key_ne_empty_of_mem {entries : List Value} {cities : List City}
    (h : List.Forall₂ Value.DescribesCity entries cities) {city : City} (hcity : city ∈ cities) :
    city.key ≠ "" := by
  induction h with
  | nil => contradiction
  | cons hfirst _ ih =>
    rcases List.mem_cons.1 hcity with rfl | hrest
    · exact Text.lower_ne_empty hfirst.notBlank
    · exact ih hrest

lemma runWithFile_eq (plan : Plan) (path : Text) {reader : DocumentReader} {bytes : ByteArray}
    {catalog : Catalog} (h : ofBytes bytes reader = .ok catalog) :
    plan.runWithFile path (.file bytes) reader =
      plan.runWith (default.overlay catalog) [.loaded catalog.entries.length path] := by
  rw [Plan.runWithFile, h]

/-- **The last entry is found.**  The keys of a catalog are the names of its entries in lower case,
in the order in which they first appear, and under each stands the city of its last entry.  Whatever
is asked for, if it comes to the key of an entry, then the last city under that key is found, even
if the text reads as coordinates; so it is also when the catalog is laid over the cities that are
always known, and of those all others are still found.  It is in these that a run with a file looks
its places up, however the file is read as a document. -/
theorem last_entry_found {document : Value} {catalog : Catalog}
    (h : ofValue document = .ok catalog) :
    ∃ entries cities, document.cityList? = some entries ∧
      List.Forall₂ Value.DescribesCity entries cities ∧
      catalog.entries.map Prod.fst = (cities.map City.key).eraseDups ∧
      (∀ e ∈ catalog.entries, cities.findRev? (fun city => city.key == e.1) = some e.2) ∧
      (∀ city ∈ cities, ∀ asked, keyOf asked = city.key →
        ∃ last, cities.findRev? (fun other => other.key == city.key) = some last ∧
          catalog.resolve asked = .ok last.location ∧
          (default.overlay catalog).resolve asked = .ok last.location) ∧
      (∀ e ∈ default.entries, (∀ city ∈ cities, city.key ≠ e.1) → ∀ asked, keyOf asked = e.1 →
        (default.overlay catalog).resolve asked = .ok e.2.location) ∧
      ∀ (reader : DocumentReader) bytes text,
        Text.ofBytes? bytes = some text → reader text = .ok document →
        ofBytes bytes reader = .ok catalog ∧ ∀ (plan : Plan) (path : Text),
          plan.runWithFile path (.file bytes) reader =
            plan.runWith (default.overlay catalog) [.loaded catalog.entries.length path] := by
  obtain ⟨entries, cities, hlist, hcities, rfl⟩ := exists_of_ofValue_eq_ok h
  have hnodup : (empty.overlay (ofCities cities)).keys.Nodup :=
    nodup_keys_overlay nodup_keys_empty _
  have hfind (key : Text) : (empty.overlay (ofCities cities)).find? key =
      cities.findRev? fun city => city.key == key := by
    rw [find?_overlay_ofCities, find?_empty, Option.or_none]
  refine ⟨entries, cities, hlist, hcities, ?_, fun e he => ?_, fun city hcity asked hasked => ?_,
    fun e he hother asked hasked => ?_, fun reader bytes text htext hread => ?_⟩
  · have hkeys := keys_overlay nodup_keys_empty (ofCities cities)
    rwa [keys_ofCities] at hkeys
  · rw [← hfind, find?_of_mem_entries hnodup he]
  · obtain ⟨last, hlast, -⟩ := exists_findRev?_of_mem hcity
    have hkey : keyOf asked ≠ "" := hasked ▸ key_ne_empty_of_mem hcities hcity
    have hfound : (empty.overlay (ofCities cities)).find? (keyOf asked) = some last := by
      rw [hfind, hasked, hlast]
    refine ⟨last, hlast, resolve_of_find? hfound hkey, resolve_of_find? ?_ hkey⟩
    rw [find?_overlay_of_nodup _ hnodup, hfound, Option.some_or]
  · have hkey : keyOf asked ≠ "" :=
      hasked ▸ ne_empty_of_mem_keys_default (List.mem_map_of_mem he)
    have hnone : cities.findRev? (fun city => city.key == e.1) = none := by
      rw [List.findRev?_eq_find?_reverse, List.find?_eq_none]
      intro city hcity
      simpa using hother city (List.mem_reverse.1 hcity)
    refine resolve_of_find? ?_ hkey
    rw [find?_overlay_of_nodup _ hnodup, hfind, hasked, hnone, Option.none_or,
      find?_of_mem_entries nodup_keys_default he]
  · have hbytes : ofBytes bytes reader = .ok (empty.overlay (ofCities cities)) :=
      (ofBytes_of_read htext hread).trans h
    exact ⟨hbytes, fun plan path => runWithFile_eq plan path hbytes⟩

/-- Two entries under one key, which reads as coordinates too. -/
theorem last_entry_found_under_coordinates :
    let document : Value := .object [(.text "cities", .list [
      .object [(.text "name", .text "1,2"), (.text "lat", .int 3), (.text "lon", .int 4)],
      .object [(.text "name", .text " 1,2"), (.text "lat", .int 5), (.text "lon", .int 6)]])]
    ∃ catalog, ofValue document = .ok catalog ∧
      catalog.entries.map Prod.fst = [Text.ofString "1,2"] ∧
      (∃ place, catalog.resolve "1,2 " = .ok place ∧ place.lat = 5.0 ∧ place.lon = 6.0) ∧
      ∃ place, (default.overlay catalog).resolve "London" = .ok place := by
  intro document
  obtain ⟨catalog, hcatalog⟩ : ∃ catalog, ofValue document = .ok catalog := by
    cases h : ofValue document with
    | ok catalog => exact ⟨catalog, rfl⟩
    | error fault =>
      have hok : (ofValue document).isOk = true := by decide +kernel
      rw [h] at hok
      contradiction
  obtain ⟨entries, cities, hlist, hcities, hkeys, -, hfound, hdefault, -⟩ :=
    last_entry_found hcatalog
  obtain rfl := Option.some.inj hlist
  cases hcities with
  | @cons _ first _ _ hfirst hrest =>
  cases hrest with
  | @cons _ second _ _ hsecond hrest =>
  cases hrest
  have hkey {entry : Value} {city : City} (name : Text) (hcity : entry.DescribesCity city)
      (hname : entry.entryField "name" = .ok (.text name)) : city.key = keyOf name := by
    obtain ⟨_, hname', hshown⟩ := hcity.name
    obtain rfl := Except.ok.inj (hname'.symm.trans hname)
    rw [City.key, hshown]
    rfl
  have hfirstKey : first.key = Text.ofString "1,2" :=
    (hkey "1,2" hfirst rfl).trans (by decide +kernel)
  have hsecondKey : second.key = Text.ofString "1,2" :=
    (hkey " 1,2" hsecond rfl).trans (by decide +kernel)
  refine ⟨catalog, hcatalog, ?_, ?_, ?_⟩
  · rw [hkeys, List.map_cons, List.map_cons, List.map_nil, hfirstKey, hsecondKey]
    decide +kernel
  · obtain ⟨last, hlast, hresolve, -⟩ := hfound second (by simp) "1,2 "
      (hsecondKey ▸ by decide +kernel)
    obtain rfl : second = last := by simpa [List.findRev?] using hlast
    obtain ⟨_, hlat, hfive⟩ := hsecond.lat
    obtain ⟨_, hlon, hsix⟩ := hsecond.lon
    obtain rfl := Except.ok.inj hlat
    obtain rfl := Except.ok.inj hlon
    refine ⟨second.location, hresolve, ?_, ?_⟩
    · have hread : Decimal.ofInt? 5 = some 5.0 := by decide +kernel
      rw [Value.toCoordinate, hread] at hfive
      exact (Except.ok.inj hfive).symm
    · have hread : Decimal.ofInt? 6 = some 6.0 := by decide +kernel
      rw [Value.toCoordinate, hread] at hsix
      exact (Except.ok.inj hsix).symm
  · have hlondon : Text.ofString "london" ∈ default.keys := by
      rw [keys_default]
      exact List.mem_map_of_mem (by simp)
    obtain ⟨e, he, hkeyLondon⟩ := List.mem_map.1 hlondon
    refine ⟨e.2.location, hdefault e he ?_ "London" (hkeyLondon ▸ by decide +kernel)⟩
    intro city hcity
    have hcityKey : city.key = Text.ofString "1,2" := by
      simp only [List.mem_cons, List.not_mem_nil, or_false] at hcity
      rcases hcity with rfl | rfl
      · exact hfirstKey
      · exact hsecondKey
    rw [hcityKey, hkeyLondon]
    decide +kernel

end Catalog

end GreatCircle
