/-
# Which place is found

`Catalog.Answers` says which place answers to a text: that of the city under the text, and if there
is none, the place whose latitude and longitude the text names with a single comma between.  Looking
a text up gives just this place, and a fault for every other text: `Catalog.resolve_ends`.
-/
import GreatCircle.Proofs.City.Coordinates

namespace GreatCircle

/-- Two pieces are what stands on both sides of the only occurrence of a mark. -/
lemma Text.splitOn_eq_pair_iff {α : Type} [DecidableEq α] {mark : α} {xs before after : List α} :
    splitOn mark xs = [before, after] ↔
      xs = before ++ mark :: after ∧ mark ∉ before ∧ mark ∉ after := by
  rw [splitOn_eq_listSplitOn]
  constructor
  · intro h
    by_cases hmark : mark ∈ xs
    · obtain ⟨start, rest, rfl, hstart⟩ := List.eq_append_cons_of_mem hmark
      rw [List.splitOn_append_cons_self_of_not_mem hstart] at h
      obtain ⟨rfl, hrest⟩ := List.cons.inj h
      by_cases hmore : mark ∈ rest
      · -- a second mark would make a third piece
        obtain ⟨middle, last, rfl, hmiddle⟩ := List.eq_append_cons_of_mem hmore
        rw [List.splitOn_append_cons_self_of_not_mem hmiddle] at hrest
        exact absurd (List.cons.inj hrest).2 (List.splitOn_ne_nil mark last)
      · rw [List.splitOn_eq_singleton hmore] at hrest
        obtain rfl := (List.cons.inj hrest).1
        exact ⟨rfl, hstart, hmore⟩
    · rw [List.splitOn_eq_singleton hmark] at h
      exact absurd (List.cons.inj h).2 (by simp)
  · rintro ⟨rfl, hbefore, hafter⟩
    rw [List.splitOn_append_cons_self_of_not_mem hbefore, List.splitOn_eq_singleton hafter]

/-- Texts give a place if the numbers that are written in them do. -/
lemma GeoPoint.ofTexts_eq_ok_iff {lat lon : Text} {p : GeoPoint Float} :
    GeoPoint.ofTexts lat lon = .ok p ↔
      ∃ y x, Numeral.float? lat = some y ∧ Numeral.float? lon = some x ∧
        ∃ h : IsOnGlobe y x, h.place = p := by
  constructor
  · intro h
    obtain ⟨y, hy, h⟩ := bind_eq_ok.1 h
    obtain ⟨x, hx, h⟩ := bind_eq_ok.1 h
    exact ⟨y, x, Value.coordinateOfText_eq_ok_iff.1 hy, Value.coordinateOfText_eq_ok_iff.1 hx,
      ofCoordinates_eq_ok_iff.1 h⟩
  · rintro ⟨y, x, hy, hx, h⟩
    refine bind_eq_ok.2 ⟨y, Value.coordinateOfText_eq_ok_iff.2 hy, ?_⟩
    exact bind_eq_ok.2 ⟨x, Value.coordinateOfText_eq_ok_iff.2 hx, ofCoordinates_eq_ok_iff.2 h⟩

namespace Catalog

/-- The place that answers to a text. -/
inductive Answers (catalog : Catalog) (asked : Text) : GeoPoint Float → Prop
  /-- A city is found under the text, which is not blank. -/
  | city {city : City} (notBlank : ∃ c ∈ asked.points, Text.isBlank c = false)
      (found : catalog.find? (keyOf asked) = some city) : Answers catalog asked city.location
  /-- No city is found, and the text names a latitude and a longitude with one comma between. -/
  | coordinates {before after : Text} {lat lon : Float}
      (notFound : catalog.find? (keyOf asked) = none)
      (split : (Text.strip asked).points = before.points ++ CodePoint.ofChar ',' :: after.points)
      (onlyComma : CodePoint.ofChar ',' ∉ before.points ∧ CodePoint.ofChar ',' ∉ after.points)
      (latWritten : Numeral.float? (Text.strip before) = some lat)
      (lonWritten : Numeral.float? (Text.strip after) = some lon)
      (onGlobe : GeoPoint.IsOnGlobe lat lon) : Answers catalog asked onGlobe.place

section Lookup

variable {catalog : Catalog} {asked : Text}

lemma resolve_of_blank (h : Text.strip asked = "") : catalog.resolve asked = .error .blank := by
  rw [resolve]
  exact if_pos h

/-- A text under which no city is found is cut at its commas: two pieces are read as coordinates,
and no other number of pieces is. -/
lemma resolve_of_not_found (hblank : Text.strip asked ≠ "")
    (hfound : catalog.find? (keyOf asked) = none) :
    (∃ before after,
        Text.splitOn (CodePoint.ofChar ',') (Text.strip asked).points = [before, after] ∧
        catalog.resolve asked = (GeoPoint.ofTexts (Text.strip ⟨before⟩)
          (Text.strip ⟨after⟩)).mapError (.badCoordinates (Text.strip asked))) ∨
      (∀ before after,
        Text.splitOn (CodePoint.ofChar ',') (Text.strip asked).points ≠ [before, after]) ∧
        catalog.resolve asked = .error (.unknown (Text.strip asked)) := by
  rw [keyOf] at hfound
  rw [resolve]
  simp only [Option.getD_some, if_neg hblank, hfound]
  split
  · rename_i hpair
    obtain ⟨before, tail, hpieces, hlat, htail⟩ := List.map_eq_cons_iff.1 hpair
    obtain ⟨after, rest, rfl, hlon, hrest⟩ := List.map_eq_cons_iff.1 htail
    obtain rfl := List.map_eq_nil_iff.1 hrest
    exact Or.inl ⟨before, after, hpieces, by rw [hlat, hlon]⟩
  · rename_i hpair
    refine Or.inr ⟨fun before after hpieces => ?_, rfl⟩
    rw [hpieces] at hpair
    exact hpair (Text.strip ⟨before⟩) (Text.strip ⟨after⟩) rfl

/-- A text that is not blank and under which no city is found gives the place that it names. -/
lemma resolve_eq_ok_iff_of_not_found (hblank : Text.strip asked ≠ "")
    (hfound : catalog.find? (keyOf asked) = none) {place : GeoPoint Float} :
    catalog.resolve asked = .ok place ↔ catalog.Answers asked place := by
  rcases resolve_of_not_found hblank hfound with
    ⟨before, after, hpieces, hresolve⟩ | ⟨hpieces, hresolve⟩
  · rw [hresolve, mapError_eq_ok, GeoPoint.ofTexts_eq_ok_iff]
    constructor
    · rintro ⟨y, x, hlat, hlon, hglobe, rfl⟩
      obtain ⟨hpoints, hcomma⟩ := Text.splitOn_eq_pair_iff.1 hpieces
      have hhalves : (Text.strip asked).points =
          (Text.mk before).points ++ CodePoint.ofChar ',' :: (Text.mk after).points := hpoints
      exact .coordinates hfound hhalves hcomma hlat hlon hglobe
    · rintro (⟨-, hcity⟩ | ⟨-, hsplit, hcomma, hlat, hlon, hglobe⟩)
      · rw [hfound] at hcity
        contradiction
      · have hother := Text.splitOn_eq_pair_iff.2 ⟨hsplit, hcomma⟩
        obtain ⟨rfl, hrest⟩ := List.cons.inj (hpieces.symm.trans hother)
        obtain rfl := (List.cons.inj hrest).1
        exact ⟨_, _, hlat, hlon, hglobe, rfl⟩
  · rw [hresolve]
    constructor
    · intro h
      contradiction
    · rintro (⟨-, hcity⟩ | ⟨-, hsplit, hcomma, -⟩)
      · rw [hfound] at hcity
        contradiction
      · exact absurd (Text.splitOn_eq_pair_iff.2 ⟨hsplit, hcomma⟩) (hpieces _ _)

/-- No place answers to a blank text. -/
lemma Answers.strip_ne_empty {place : GeoPoint Float} (h : catalog.Answers asked place) :
    Text.strip asked ≠ "" := by
  rcases h with ⟨hblank, -⟩ | ⟨-, hsplit, -⟩
  · exact Text.strip_ne_empty_iff.2 hblank
  · intro hempty
    rw [hempty] at hsplit
    exact absurd hsplit.symm (by simp [Text.ofString, Text.ofChars])

lemma resolve_eq_ok_iff {place : GeoPoint Float} :
    catalog.resolve asked = .ok place ↔ catalog.Answers asked place := by
  by_cases hblank : Text.strip asked = ""
  · rw [resolve_of_blank hblank]
    exact ⟨fun h => by contradiction, fun h => absurd hblank h.strip_ne_empty⟩
  · cases hfound : catalog.find? (keyOf asked) with
    | none => exact resolve_eq_ok_iff_of_not_found hblank hfound
    | some city =>
      rw [resolve_of_find? hfound (Text.lower_ne_empty hblank)]
      constructor
      · intro h
        obtain rfl := Except.ok.inj h
        exact .city (Text.strip_ne_empty_iff.1 hblank) hfound
      · rintro (⟨-, hother⟩ | ⟨hnone, -⟩)
        · obtain rfl := Option.some.inj (hfound.symm.trans hother)
          rfl
        · rw [hfound] at hnone
          contradiction

lemma resolve_ne_blank (hblank : Text.strip asked ≠ "") :
    catalog.resolve asked ≠ .error .blank := by
  cases hfound : catalog.find? (keyOf asked) with
  | some city =>
    rw [resolve_of_find? hfound (Text.lower_ne_empty hblank)]
    simp
  | none =>
    rcases resolve_of_not_found hblank hfound with ⟨before, after, -, hresolve⟩ | ⟨-, hresolve⟩
    · intro h
      obtain ⟨fault, -, hfault⟩ := mapError_eq_error.1 (hresolve.symm.trans h)
      contradiction
    · rw [hresolve]
      simp

end Lookup

/-- **What a text stands for.**  Looking a text up, or none at all, gives the place that answers to
it, if there is one, and otherwise a fault, which for a blank text says so. -/
theorem resolve_ends (catalog : Catalog) (asked : Option Text) :
    (∀ place, catalog.resolve asked = .ok place ↔ catalog.Answers (asked.getD "") place) ∧
    ((∃ fault, catalog.resolve asked = .error fault) ↔
      ∀ place, ¬ catalog.Answers (asked.getD "") place) ∧
    (catalog.resolve asked = .error .blank ↔
      ∀ c ∈ (asked.getD "").points, Text.isBlank c = true) := by
  have hasked : catalog.resolve asked = catalog.resolve (some (asked.getD "")) := rfl
  rw [hasked]
  refine ⟨fun place => resolve_eq_ok_iff, ?_, ?_⟩
  · simp only [← resolve_eq_ok_iff]
    cases catalog.resolve (some (asked.getD "")) with
    | ok place => simp
    | error fault => simp
  · rw [← Text.strip_eq_empty_iff]
    refine ⟨fun h => ?_, resolve_of_blank⟩
    by_contra hblank
    exact resolve_ne_blank hblank h

end Catalog

end GreatCircle
