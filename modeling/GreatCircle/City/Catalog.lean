/-
# City catalogs

A catalog lists cities under keys.  The key of a city is its name in lower case, without white
space around it.  A key that is given again keeps its place and gets the new city.
-/
import GreatCircle.Sphere.GeoPoint
import GreatCircle.Text.Blank
import GreatCircle.Text.Case

namespace GreatCircle

/-- A place with a name. -/
structure City where
  /-- The name as it is written. -/
  name : Text
  /-- Where the city is. -/
  location : GeoPoint Float

/-- Cities under keys, in the order in which the keys first appeared. -/
structure Catalog where
  /-- The keys with their cities. -/
  entries : List (Text × City)

namespace Catalog

/-- The key under which a name is found. -/
def keyOf (name : Text) : Text := Text.lower (Text.strip name)

/-- No cities. -/
def empty : Catalog := ⟨[]⟩

/-- Entries after a city was set for a key. -/
def setEntry (key : Text) (city : City) : List (Text × City) → List (Text × City)
  | [] => [(key, city)]
  | (k, old) :: rest =>
    if k = key then (k, city) :: rest else (k, old) :: setEntry key city rest

/-- A catalog with one more city under a key. -/
def insert (catalog : Catalog) (key : Text) (city : City) : Catalog :=
  ⟨setEntry key city catalog.entries⟩

/-- The city under a key. -/
def find? (catalog : Catalog) (key : Text) : Option City :=
  (catalog.entries.find? fun e => e.1 == key).map Prod.snd

/-- A catalog with the cities of another laid over it. -/
def overlay (base top : Catalog) : Catalog :=
  top.entries.foldl (fun catalog e => catalog.insert e.1 e.2) base

@[simp] theorem find?_empty (key : Text) : empty.find? key = none := rfl

theorem find?_insert (catalog : Catalog) (key other : Text) (city : City) :
    (catalog.insert key city).find? other =
      if other = key then some city else catalog.find? other := by
  obtain ⟨entries⟩ := catalog
  simp only [insert, find?]
  induction entries with
  | nil =>
    by_cases h : other = key
    · simp [setEntry, h]
    · simp [setEntry, h, Ne.symm h]
  | cons e rest ih =>
    obtain ⟨k, old⟩ := e
    by_cases hk : k = key
    · subst hk
      by_cases h : other = k
      · simp [setEntry, h]
      · simp [setEntry, h, Ne.symm h]
    · by_cases ho : k = other
      · subst ho
        simp [setEntry, hk]
      · simpa [setEntry, hk, ho] using ih

end Catalog

end GreatCircle
