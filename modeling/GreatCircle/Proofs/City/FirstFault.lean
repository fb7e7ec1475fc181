/-
# The first fault of a catalog file

Entries are taken one after the other, and the first that is no city ends the reading: `IsCity` says
which entries are taken, `Value.entryFault?` what is wrong with one that is not.  A list of entries
is refused just for the first of them that is no city, whatever follows it
(`Catalog.addEntries_eq_error_iff`).

Some files are not even refused in words: `Catalog.Unread` lists them, and the list is complete
(`Catalog.unread_iff`).
-/
import Mathlib.Tactic.Lemma
import GreatCircle.City.Load

namespace GreatCircle

namespace Value

/-- The entry is a city with a name. -/
def IsCity (entry : Value) : Prop := ∃ city, entry.toCity = .ok city ∧ city.name ≠ ""

/-- What is wrong with the entry of an index. -/
def entryFault? (index : Nat) (entry : Value) : Option CatalogFault :=
  match entry.toCity with
  | .error (.fault fault) => some (.badEntry index fault)
  | .error .hugeNumber => some .hugeNumber
  | .ok city => if city.name = "" then some (.emptyName index) else none

lemma entryFault?_eq_none_iff {index : Nat} {entry : Value} :
    entry.entryFault? index = none ↔ entry.IsCity := by
  unfold entryFault? IsCity
  cases entry.toCity with
  | error stop => cases stop <;> simp
  | ok city => simp

/-- Whatever is wrong with an entry is worded, save a number that is too large. -/
lemma eq_hugeNumber_of_entryFault? {index : Nat} {entry : Value} {fault : CatalogFault}
    (h : entry.entryFault? index = some fault) {path : Text} (hmessage : fault.message? path = none) :
    fault = .hugeNumber := by
  unfold entryFault? at h
  split at h
  · obtain rfl := Option.some.inj h
    contradiction
  · exact (Option.some.inj h).symm
  · split at h
    · obtain rfl := Option.some.inj h
      contradiction
    · contradiction

lemma entryFault?_eq_hugeNumber_iff {index : Nat} {entry : Value} :
    entry.entryFault? index = some .hugeNumber ↔ entry.toCity = .error .hugeNumber := by
  unfold entryFault?
  cases entry.toCity with
  | error stop => cases stop <;> simp
  | ok city =>
    by_cases hname : city.name = ""
    · simp [hname]
    · simp [hname]

end Value

namespace Catalog

/-- An entry that is no city ends the reading. -/
lemma addEntries_cons_of_fault {catalog : Catalog} {index : Nat} {entry : Value}
    {rest : List Value} {fault : CatalogFault} (h : entry.entryFault? index = some fault) :
    catalog.addEntries index (entry :: rest) = .error fault := by
  rw [Value.entryFault?] at h
  rw [addEntries]
  cases hcity : entry.toCity with
  | error stop =>
    rw [hcity] at h
    cases stop with
    | fault fault' => exact congrArg Except.error (Option.some.inj h)
    | hugeNumber => exact congrArg Except.error (Option.some.inj h)
  | ok city =>
    rw [hcity] at h
    by_cases hname : city.name = ""
    · simp only [if_pos hname] at h ⊢
      exact congrArg Except.error (Option.some.inj h)
    · simp only [if_neg hname] at h
      contradiction

/-- A city is set under its name in lower case, and the reading goes on. -/
lemma addEntries_cons_of_toCity (catalog : Catalog) (index : Nat) {entry : Value}
    (rest : List Value) {city : City} (h : entry.toCity = .ok city) (hname : city.name ≠ "") :
    catalog.addEntries index (entry :: rest) =
      (catalog.insert (Text.lower city.name) city).addEntries (index + 1) rest := by
  rw [addEntries, h]
  simp only
  rw [if_neg hname]

/-- A city is taken, and the reading goes on. -/
lemma addEntries_cons_of_isCity (catalog : Catalog) (index : Nat) {entry : Value}
    (rest : List Value) (h : entry.IsCity) :
    ∃ next : Catalog, catalog.addEntries index (entry :: rest) =
      next.addEntries (index + 1) rest := by
  obtain ⟨city, hcity, hname⟩ := h
  exact ⟨_, addEntries_cons_of_toCity catalog index rest hcity hname⟩

/-- **The first fault.**  Entries are refused for the first of them that is no city. -/
lemma addEntries_eq_error_iff {catalog : Catalog} {index : Nat} {entries : List Value}
    {fault : CatalogFault} :
    catalog.addEntries index entries = .error fault ↔
      ∃ before entry after, entries = before ++ entry :: after ∧ (∀ e ∈ before, e.IsCity) ∧
        entry.entryFault? (index + before.length) = some fault := by
  induction entries generalizing catalog index with
  | nil => simp [addEntries]
  | cons first rest ih =>
    cases hfirst : first.entryFault? index with
    | some other =>
      rw [addEntries_cons_of_fault hfirst, Except.error.injEq]
      constructor
      · rintro rfl
        exact ⟨[], first, rest, rfl, by simp, hfirst⟩
      · rintro ⟨before, entry, after, hsplit, hbefore, hfault⟩
        cases before with
        | nil =>
          obtain ⟨rfl, -⟩ := List.cons.inj hsplit
          exact Option.some.inj (hfirst.symm.trans hfault)
        | cons e before =>
          -- a first entry that is a city has no fault
          obtain ⟨rfl, -⟩ := List.cons.inj hsplit
          have hnone : first.entryFault? index = none :=
            Value.entryFault?_eq_none_iff.2 (hbefore first (by simp))
          rw [hfirst] at hnone
          contradiction
    | none =>
      have hcity := Value.entryFault?_eq_none_iff.1 hfirst
      obtain ⟨next, hnext⟩ := addEntries_cons_of_isCity catalog index rest hcity
      rw [hnext, ih]
      constructor
      · rintro ⟨before, entry, after, rfl, hbefore, hfault⟩
        refine ⟨first :: before, entry, after, rfl, ?_, ?_⟩
        · simpa using ⟨hcity, hbefore⟩
        · rw [List.length_cons]
          rwa [Nat.add_assoc, Nat.add_comm 1] at hfault
      · rintro ⟨before, entry, after, hsplit, hbefore, hfault⟩
        cases before with
        | nil =>
          obtain ⟨rfl, -⟩ := List.cons.inj hsplit
          rw [List.length_nil, Nat.add_zero, hfirst] at hfault
          contradiction
        | cons e before =>
          obtain ⟨rfl, rfl⟩ := List.cons.inj hsplit
          refine ⟨before, entry, after, rfl, fun e he => hbefore e (by simp [he]), ?_⟩
          rw [List.length_cons] at hfault
          rwa [Nat.add_assoc, Nat.add_comm 1]

/-- The files that are refused without a word of their own: what holds no text, a text that is not
read as a document, and a document in which a coordinate is a whole number beyond all doubles while
all entries before are cities. -/
inductive Unread (reader : DocumentReader) (bytes : ByteArray) : Prop
  | noText (h : Text.ofBytes? bytes = none)
  | noDocument {text : List Char} {fault : Yaml.Fault} (holds : Text.ofBytes? bytes = some text)
      (h : reader text = .error fault)
  | hugeNumber {text : List Char} {document : Value} {before after : List Value} {entry : Value}
      (holds : Text.ofBytes? bytes = some text) (read : reader text = .ok document)
      (cities : document.cityList? = some (before ++ entry :: after))
      (good : ∀ e ∈ before, e.IsCity) (huge : entry.toCity = .error .hugeNumber)

/-- A file that is read as a document is taken as that document is. -/
lemma ofBytes_of_read {reader : DocumentReader} {bytes : ByteArray} {text : List Char}
    {document : Value} (htext : Text.ofBytes? bytes = some text)
    (hread : reader text = .ok document) : ofBytes bytes reader = ofValue document := by
  rw [ofBytes, htext]
  simp only [hread]

lemma ofValue_eq_hugeNumber_iff {document : Value} :
    ofValue document = .error .hugeNumber ↔
      ∃ before entry after, document.cityList? = some (before ++ entry :: after) ∧
        (∀ e ∈ before, e.IsCity) ∧ entry.toCity = .error .hugeNumber := by
  unfold ofValue
  cases document.cityList? with
  | none => simp
  | some entries =>
    simp only [addEntries_eq_error_iff, Value.entryFault?_eq_hugeNumber_iff, Option.some.injEq]

lemma eq_hugeNumber_of_ofValue {document : Value} {fault : CatalogFault}
    (h : ofValue document = .error fault) {path : Text} (hmessage : fault.message? path = none) :
    fault = .hugeNumber := by
  unfold ofValue at h
  split at h
  · obtain ⟨_, _, _, -, -, hfault⟩ := addEntries_eq_error_iff.1 h
    exact Value.eq_hugeNumber_of_entryFault? hfault hmessage
  · obtain rfl := Except.error.inj h
    contradiction

/-- The faults of these files, and of no others, have no wording. -/
lemma unread_iff {reader : DocumentReader} {bytes : ByteArray} (path : Text) :
    Unread reader bytes ↔
      ∃ fault, ofBytes bytes reader = .error fault ∧ fault.message? path = none := by
  constructor
  · rintro (hbytes | @⟨text, fault, hbytes, hread⟩ | ⟨hbytes, hread, hcities, hgood, hhuge⟩)
    · refine ⟨.notText, ?_, rfl⟩
      rw [ofBytes, hbytes]
    · refine ⟨.notYaml fault, ?_, rfl⟩
      rw [ofBytes, hbytes]
      simp only [hread]
    · refine ⟨.hugeNumber, ?_, rfl⟩
      rw [ofBytes_of_read hbytes hread]
      exact ofValue_eq_hugeNumber_iff.2 ⟨_, _, _, hcities, hgood, hhuge⟩
  · rintro ⟨fault, hfault, hmessage⟩
    unfold ofBytes at hfault
    split at hfault
    · rename_i hbytes
      exact .noText hbytes
    · rename_i text hbytes
      split at hfault
      · rename_i fault' hread
        exact .noDocument hbytes hread
      · rename_i document hread
        obtain rfl := eq_hugeNumber_of_ofValue hfault hmessage
        obtain ⟨before, entry, after, hcities, hgood, hhuge⟩ := ofValue_eq_hugeNumber_iff.1 hfault
        exact .hugeNumber hbytes hread hcities hgood hhuge

end Catalog

end GreatCircle
