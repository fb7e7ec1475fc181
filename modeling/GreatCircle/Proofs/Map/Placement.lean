/-
# Crossings and ties, position by position

`Placed.crossings` walks along a line and collects positions; here a position is told from the
two points at it (`Placed.mem_crossings_iff`), and the positions are shown to be cuts
(`Placed.cuts_crossings`), in either mode (`cuts_modeCuts`).  `snappedPoints` is the line that is
cut: it differs from the given one only in the longitudes of ties (`forall₂_snapsTo`).

Everything here holds for every kind of numbers, undefined ones included.
-/
import Mathlib.Data.List.Forall2
import GreatCircle.Proofs.Map.Stretch

namespace GreatCircle

open Scalar

/-- Without a second point there is one point at most. -/
lemma eq_nil_or_singleton {β : Type} {points : List β}
    (h : ∀ a b rest, points = a :: b :: rest → False) : points = [] ∨ ∃ a, points = [a] := by
  cases points with
  | nil => exact Or.inl rfl
  | cons a rest =>
    cases rest with
    | nil => exact Or.inr ⟨a, rfl⟩
    | cons b rest => exact (h a b rest rfl).elim

variable {α : Type} [Scalar α]

/-- The longitude is a tie: its sine, taken from the antimeridian, is below the tolerance. -/
def IsTie (lon : α) : Prop := magnitude (Side.seamSine lon) < (Side.tieTolerance : α)

namespace Side

lemma getElem?_inherit_of_some {sides : List (Option Side)} {i : ℕ} {s : Side}
    (h : sides[i]? = some (some s)) (last : Side) : (inherit last sides)[i]? = some s := by
  induction sides generalizing i last with
  | nil => simp at h
  | cons side sides ih =>
    cases i with
    | zero =>
      obtain rfl : side = some s := by simpa using h
      simp [inherit]
    | succ i =>
      rw [List.getElem?_cons_succ] at h
      cases side with
      | none => simpa [inherit] using ih h last
      | some side => simpa [inherit] using ih h side

/-- A point with a side of its own keeps it. -/
lemma getElem?_resolve_of_some {lons : List α} {i : ℕ} {lon : α} {s : Side}
    (hlon : lons[i]? = some lon) (hs : ofLongitude? lon = some s) :
    (resolve lons)[i]? = some s := by
  refine getElem?_inherit_of_some ?_ _
  simp [hlon, hs]

lemma getElem?_inherit_of_none {sides : List (Option Side)} {i : ℕ}
    (h : sides[i + 1]? = some none) (last : Side) :
    (inherit last sides)[i + 1]? = (inherit last sides)[i]? := by
  induction sides generalizing i last with
  | nil => simp at h
  | cons side sides ih =>
    rw [List.getElem?_cons_succ] at h
    cases i with
    | zero =>
      obtain ⟨rest, rfl⟩ : ∃ rest, sides = none :: rest := by
        cases sides with
        | nil => simp at h
        | cons next rest => exact ⟨rest, by simpa using h⟩
      cases side <;> simp [inherit]
    | succ i =>
      cases side with
      | none => simpa [inherit] using ih h last
      | some side => simpa [inherit] using ih h side

lemma ofLongitude?_eq_none_iff {lon : α} : ofLongitude? lon = none ↔ IsTie lon := by
  unfold ofLongitude? IsTie
  dsimp only
  split
  · simp [*]
  · split
    · simp [*]
    · split <;> simp [*]

lemma exists_of_not_isTie {lon : α} (h : ¬ IsTie lon) : ∃ s, ofLongitude? lon = some s :=
  Option.ne_none_iff_exists'.1 fun hnone => h (ofLongitude?_eq_none_iff.1 hnone)

lemma not_isTie_of_side {lon : α} {s : Side} (h : ofLongitude? lon = some s) : ¬ IsTie lon := by
  rw [← ofLongitude?_eq_none_iff, h]
  exact Option.some_ne_none s

/-- A line with a point that has a side has a first one, from whose side it sets out. -/
lemma exists_ofStart_eq {lons : List α} (h : ∃ lon ∈ lons, ¬ IsTie lon) :
    ∃ side, lons.findSome? ofLongitude? = some side ∧ ofStart lons = side := by
  obtain ⟨lon, hlon, htie⟩ := h
  obtain ⟨side, hside⟩ := exists_of_not_isTie htie
  obtain ⟨first, hfirst⟩ : ∃ first, lons.findSome? ofLongitude? = some first := by
    rw [← Option.isSome_iff_exists, List.findSome?_isSome_iff]
    exact ⟨lon, hlon, by rw [hside, Option.isSome_some]⟩
  exact ⟨first, hfirst, by rw [ofStart, hfirst, Option.getD_some]⟩

lemma ofTies_mem (lons : List α) : ofTies lons = west ∨ ofTies lons = east := by
  unfold ofTies
  split
  · split
    · exact Or.inl rfl
    · exact Or.inr rfl
  · exact Or.inr rfl

lemma mem_inherit {side last : Side} {sides : List (Option Side)} (h : side ∈ inherit last sides) :
    side = last ∨ some side ∈ sides := by
  induction sides generalizing last with
  | nil => simp [inherit] at h
  | cons own sides ih =>
    cases own with
    | none =>
      rcases List.mem_cons.1 h with rfl | h
      · exact Or.inl rfl
      · exact (ih h).imp_right (List.mem_cons_of_mem _)
    | some own =>
      rcases List.mem_cons.1 h with rfl | h
      · exact Or.inr (by simp)
      · rcases ih h with rfl | h
        · exact Or.inr (by simp)
        · exact Or.inr (List.mem_cons_of_mem _ h)

/-- The sides of a line are those of its points, or there is no point with a side. -/
lemma mem_resolve {side : Side} {lons : List α} (h : side ∈ resolve lons) :
    (∃ lon ∈ lons, ofLongitude? lon = some side) ∨
      (∀ lon ∈ lons, IsTie lon) ∧ side = ofTies lons := by
  have hown : some side ∈ lons.map ofLongitude? → ∃ lon ∈ lons, ofLongitude? lon = some side :=
    List.mem_map.1
  rcases mem_inherit h with rfl | hside
  · cases hfirst : lons.findSome? ofLongitude? with
    | none =>
      refine Or.inr ⟨fun lon hlon => ?_, by rw [ofStart, hfirst, Option.getD_none]⟩
      exact ofLongitude?_eq_none_iff.1 (List.findSome?_eq_none_iff.1 hfirst lon hlon)
    | some first =>
      rw [ofStart, hfirst, Option.getD_some]
      exact Or.inl (List.exists_of_findSome?_eq_some hfirst)
  · exact Or.inl (hown hside)

/-- Along ties the side stays what it was before them. -/
lemma getElem?_resolve_of_ties {lons : List α} {i j : ℕ} (hij : i ≤ j)
    (h : ∀ k, i < k → k ≤ j → ∃ lon, lons[k]? = some lon ∧ IsTie lon) :
    (resolve lons)[j]? = (resolve lons)[i]? := by
  induction j, hij using Nat.le_induction with
  | base => rfl
  | succ j hij ih =>
    obtain ⟨lon, hlon, htie⟩ := h (j + 1) (by omega) le_rfl
    have hnone : (lons.map ofLongitude?)[j + 1]? = some none := by
      rw [List.getElem?_map, hlon, Option.map_some, ofLongitude?_eq_none_iff.2 htie]
    rw [resolve, getElem?_inherit_of_none hnone]
    exact ih fun k hik hkj => h k hik (by omega)

end Side

namespace Placed

/-- A placed point is a point of the line with its resolved side. -/
lemma getElem?_ofPoints {points : List (MapPoint α)} {i : ℕ} {a : Placed α}
    (h : (ofPoints points)[i]? = some a) :
    ∃ p side, points[i]? = some p ∧
      (Side.resolve (points.map MapPoint.lon))[i]? = some side ∧ ofPoint p side = a := by
  rw [ofPoints, List.getElem?_zipWith] at h
  cases hp : points[i]? with
  | none => simp [hp] at h
  | some p =>
    cases hside : (Side.resolve (points.map MapPoint.lon))[i]? with
    | none => simp [hp, hside] at h
    | some side =>
      refine ⟨p, side, rfl, rfl, ?_⟩
      simpa [hp, hside] using h

/-- A placed point that is no tie is the point itself, on its own side. -/
lemma eq_of_isTie_eq_false {points : List (MapPoint α)} {i : ℕ} {a : Placed α}
    (h : (ofPoints points)[i]? = some a) (htie : a.isTie = false) :
    ∃ p, points[i]? = some p ∧ a.point = p ∧ Side.ofLongitude? p.lon = some a.side := by
  obtain ⟨p, side, hp, hside, rfl⟩ := getElem?_ofPoints h
  cases hown : Side.ofLongitude? p.lon with
  | none => simp [ofPoint, hown] at htie
  | some own =>
    have hlon : (points.map MapPoint.lon)[i]? = some p.lon := by simp [hp]
    obtain rfl : own = side := by
      simpa [hside] using (Side.getElem?_resolve_of_some hlon hown).symm
    exact ⟨p, hp, by simp [ofPoint, hown], by simp [hown]⟩

lemma cuts_crossingsFrom (position : ℕ) (points : List (Placed α)) :
    Cuts position (position + points.length) (crossingsFrom position points) := by
  fun_induction crossingsFrom position points with
  | case1 position a b rest _ ih =>
    refine Cuts.cons le_rfl (by simp) ?_
    rwa [show position + (a :: b :: rest).length = position + 1 + (b :: rest).length by
      simp only [List.length_cons]; omega]
  | case2 position a b rest _ ih =>
    rw [show position + (a :: b :: rest).length = position + 1 + (b :: rest).length by
      simp only [List.length_cons]; omega]
    exact ih.mono (by omega)
  | case3 => exact Cuts.nil

lemma cuts_crossings (points : List (Placed α)) : Cuts 0 points.length (crossings points) := by
  simpa [crossings] using cuts_crossingsFrom 0 points

lemma mem_crossingsFrom_iff (position : ℕ) (points : List (Placed α)) (i : ℕ) :
    position + i ∈ crossingsFrom position points ↔
      ∃ a b, points[i]? = some a ∧ points[i + 1]? = some b ∧ a.crosses b := by
  -- the rest of a line has no position of the first point
  have notMem (position : ℕ) (points : List (Placed α)) :
      position ∉ crossingsFrom (position + 1) points := fun hmem => by
    have := (cuts_crossingsFrom (position + 1) points).start_le position hmem
    omega
  fun_induction crossingsFrom position points generalizing i with
  | case1 position a b rest hcross ih =>
    cases i with
    | zero => simp [hcross]
    | succ i =>
      have hshift : position + (i + 1) = position + 1 + i := by omega
      have hne : position + 1 + i ≠ position := by omega
      rw [hshift, List.mem_cons, or_iff_right hne]
      exact ih i
  | case2 position a b rest hcross ih =>
    cases i with
    | zero => simpa [hcross] using notMem position (b :: rest)
    | succ i =>
      have hshift : position + (i + 1) = position + 1 + i := by omega
      rw [hshift]
      exact ih i
  | case3 points position hshort =>
    obtain rfl | ⟨a, rfl⟩ := eq_nil_or_singleton hshort <;> simp

/-- A line crosses after a position exactly when the points at it and after it cross. -/
theorem mem_crossings_iff {points : List (Placed α)} {i : ℕ} :
    i ∈ crossings points ↔
      ∃ a b, points[i]? = some a ∧ points[i + 1]? = some b ∧ a.crosses b := by
  simpa [crossings] using mem_crossingsFrom_iff 0 points i

/-- What leaves every step crossing or not leaves the crossings alone. -/
lemma crossingsFrom_map {β : Type} [Scalar β] {f : Placed α → Placed β}
    (h : ∀ a b, (f a).crosses (f b) = a.crosses b) (position : ℕ) (points : List (Placed α)) :
    crossingsFrom position (points.map f) = crossingsFrom position points := by
  fun_induction crossingsFrom position points with
  | case1 position a b rest hcross ih =>
    rw [List.map_cons] at ih
    rw [List.map_cons, List.map_cons, crossingsFrom, h, if_pos hcross, ih]
  | case2 position a b rest hcross ih =>
    rw [List.map_cons] at ih
    rw [List.map_cons, List.map_cons, crossingsFrom, h, if_neg hcross, ih]
  | case3 points position hshort => obtain rfl | ⟨a, rfl⟩ := eq_nil_or_singleton hshort <;> rfl

end Placed

lemma SplitMode.cuts_sublist (mode : SplitMode) (crossings : List ℕ) :
    (mode.cuts crossings).Sublist crossings := by
  cases mode with
  | all => exact List.Sublist.refl _
  | first => exact List.take_sublist 1 crossings

/-- With one crossing at most, both ways of cutting are the same. -/
lemma SplitMode.cuts_eq {crossings : List ℕ} (h : crossings.length ≤ 1) (mode : SplitMode) :
    mode.cuts crossings = crossings := by
  cases mode with
  | all => rfl
  | first => exact List.take_of_length_le h

/-- The positions at which a line is cut, in either mode, are cuts of it. -/
lemma cuts_modeCuts (mode : SplitMode) (points : List (MapPoint α)) :
    Cuts 0 points.length (mode.cuts (seamCrossings points)) := by
  have h := Placed.cuts_crossings (Placed.ofPoints points)
  rw [Placed.length_ofPoints] at h
  exact h.sublist (mode.cuts_sublist _)

/-! ### The line that is cut -/

/-- The points of a line with the ties moved exactly onto the meridian that they are near. -/
def snappedPoints (points : List (MapPoint α)) : List (MapPoint α) :=
  (Placed.ofPoints points).map Placed.point

@[simp] lemma length_snappedPoints (points : List (MapPoint α)) :
    (snappedPoints points).length = points.length := by
  simp [snappedPoints]

lemma seamPieces_eq (mode : SplitMode) (points : List (MapPoint α)) :
    seamPieces mode points =
      segments (snappedPoints points) (mode.cuts (seamCrossings points)) := rfl

/-- What the tie rule may make of a point: nothing but the longitude of a tie changes, and that
becomes 0, 180 or -180. -/
structure MapPoint.SnapsTo (p q : MapPoint α) : Prop where
  lat_eq : q.lat = p.lat
  of_tie : IsTie p.lon → q.lon = 0.0 ∨ q.lon = 180.0 ∨ q.lon = -180.0
  of_not_tie : ¬ IsTie p.lon → q.lon = p.lon

/-- How the antimeridian is written on a side. -/
def Side.seamLon : Side → α
  | .west => -180.0
  | .east | .undefined => 180.0

lemma Placed.snapLongitude_eq (side : Side) (lon : α) :
    snapLongitude side lon = if magnitude lon ≤ 90.0 then 0.0 else side.seamLon := by
  cases side <;> rfl

lemma Placed.snapLongitude_mem (side : Side) (lon : α) :
    Placed.snapLongitude side lon = 0.0 ∨ Placed.snapLongitude side lon = 180.0 ∨
      Placed.snapLongitude side lon = -180.0 := by
  rw [snapLongitude_eq]
  split
  · exact Or.inl rfl
  · cases side with
    | west => exact Or.inr (Or.inr rfl)
    | east => exact Or.inr (Or.inl rfl)
    | undefined => exact Or.inr (Or.inl rfl)

lemma MapPoint.snapsTo_ofPoint (p : MapPoint α) (side : Side) :
    p.SnapsTo (Placed.ofPoint p side).point := by
  refine ⟨Placed.ofPoint_lat p side, fun htie => ?_, fun htie => ?_⟩
  · rw [← Side.ofLongitude?_eq_none_iff] at htie
    simpa [Placed.ofPoint, htie] using Placed.snapLongitude_mem side p.lon
  · obtain ⟨s, hs⟩ := Side.exists_of_not_isTie htie
    simp [Placed.ofPoint, hs]

/-- Every point of the line that is cut comes from one of the given line. -/
lemma exists_snapsTo_of_mem {points : List (MapPoint α)} {q : MapPoint α}
    (hq : q ∈ snappedPoints points) : ∃ p ∈ points, p.SnapsTo q := by
  obtain ⟨placed, hplaced, rfl⟩ := List.mem_map.1 hq
  obtain ⟨i, hi⟩ := List.mem_iff_getElem?.1 hplaced
  obtain ⟨p, side, hp, -, rfl⟩ := Placed.getElem?_ofPoints hi
  exact ⟨p, List.mem_of_getElem? hp, p.snapsTo_ofPoint side⟩

/-- The line that is cut has the points of the given line, one by one, with the ties snapped. -/
lemma forall₂_snapsTo (points : List (MapPoint α)) :
    List.Forall₂ MapPoint.SnapsTo points (snappedPoints points) := by
  have hlen := Side.length_resolve (points.map MapPoint.lon)
  rw [List.length_map] at hlen
  unfold snappedPoints Placed.ofPoints
  -- where the sides come from does not matter, so the induction may run over any
  generalize Side.resolve (points.map MapPoint.lon) = sides at hlen
  induction points generalizing sides with
  | nil => simp
  | cons p points ih =>
    match sides, hlen with
    | side :: sides, hlen =>
      exact List.Forall₂.cons (p.snapsTo_ofPoint side) (ih sides (by simpa using hlen))

end GreatCircle
