/-
# East and west are treated alike

The mirror image of the map swaps east and west: all longitudes change their sign.  Over exact
numbers a line and its mirror image are cut at the same positions, and their pieces are mirror images
of each other (`splitAtSeam_mirror`).

Side by side the computations agree up to `Side.mirror`, with one exception.  A line that never leaves
the prime meridian counts as east, and so does its mirror image (`ofStart_neg`); but on such a line
all points are drawn at longitude 0, and no side shows.
-/
import GreatCircle.Proofs.Map.Conservation
import GreatCircle.Proofs.Map.ExactSide

namespace GreatCircle

open Scalar

/-! ### Mirror images -/

/-- The other side. -/
def Side.mirror : Side → Side
  | .west => .east
  | .east => .west
  | .undefined => .undefined

/-- The mirror image of a point. -/
def MapPoint.mirror {α : Type} [Scalar α] (p : MapPoint α) : MapPoint α := ⟨-p.lon, p.lat⟩

@[simp] lemma MapPoint.mirror_lon {α : Type} [Scalar α] (p : MapPoint α) :
    p.mirror.lon = -p.lon := rfl

@[simp] lemma MapPoint.mirror_lat {α : Type} [Scalar α] (p : MapPoint α) :
    p.mirror.lat = p.lat := rfl

/-- The mirror image of a line. -/
def Polyline.mirror {α : Type} [Scalar α] (line : Polyline α) : Polyline α :=
  ⟨line.points.map MapPoint.mirror, by simpa using line.two_le⟩

/-- The mirror image of a placed point; `turn` says what becomes of its side. -/
def Placed.mirror {α : Type} [Scalar α] (turn : Side → Side) (a : Placed α) : Placed α :=
  ⟨a.point.mirror, turn a.side, a.isTie⟩

/-! ### Sides -/

namespace Side

lemma isOpposite_mirror (s t : Side) : s.mirror.isOpposite t.mirror = s.isOpposite t := by
  cases s <;> cases t <;> rfl

lemma seamSine_neg (lon : ℝ) : seamSine (-lon) = -seamSine lon := by
  rw [seamSine_real, seamSine_real, radians_neg, Real.sin_neg]

lemma isTie_neg {lon : ℝ} : IsTie (-lon) ↔ IsTie lon := by
  rw [IsTie, IsTie, magnitude_real, magnitude_real, seamSine_neg, abs_neg]

lemma ofLongitude?_neg (lon : ℝ) : ofLongitude? (-lon) = (ofLongitude? lon).map mirror := by
  rw [ofLongitude?_real, ofLongitude?_real, seamSine_neg, abs_neg]
  split
  · rfl
  · rename_i htie
    have hne := seamSine_ne_zero htie
    split_ifs with hneg hpos hpos
    · linarith
    · rfl
    · rfl
    · exact absurd (le_antisymm (not_lt.1 hpos) (neg_nonpos.1 (not_lt.1 hneg))) hne

/-- Over exact numbers every point has a side. -/
lemma ne_undefined_of_mem_resolve {lons : List ℝ} {side : Side} (h : side ∈ resolve lons) :
    side ≠ undefined := by
  rintro rfl
  rcases mem_resolve h with ⟨lon, -, hlon⟩ | ⟨-, hties⟩
  · rcases seamSine_of_ofLongitude? hlon with ⟨hside, -⟩ | ⟨hside, -⟩ <;> contradiction
  · rcases ofTies_mem lons with hside | hside <;> rw [hside] at hties <;> contradiction

lemma inherit_map_mirror (last : Side) (sides : List (Option Side)) :
    inherit last.mirror (sides.map (Option.map mirror)) = (inherit last sides).map mirror := by
  induction sides generalizing last with
  | nil => rfl
  | cons own sides ih => cases own <;> simp [inherit, ih]

lemma map_ofLongitude?_neg (lons : List ℝ) :
    (lons.map Neg.neg).map ofLongitude? = (lons.map ofLongitude?).map (Option.map mirror) := by
  rw [List.map_map, List.map_map]
  exact List.map_congr_left fun lon _ => ofLongitude?_neg lon

/-- A line of ties and its mirror image are on opposite sides, if the line leaves the prime
meridian. -/
lemma ofTies_neg {lons : List ℝ} (h : ∃ lon ∈ lons, 90 < |lon|) :
    ofTies (lons.map Neg.neg) = (ofTies lons).mirror := by
  have hfar (lon : ℝ) : decide (90.0 < magnitude (-lon)) = decide (90.0 < magnitude lon) := by
    rw [magnitude_real, magnitude_real, abs_neg]
  have hmirror : (lons.map Neg.neg).find? (fun lon => decide (90.0 < magnitude lon)) =
      (lons.find? fun lon => decide (90.0 < magnitude lon)).map Neg.neg := by
    rw [List.find?_map]
    congr 2
    exact funext hfar
  obtain ⟨first, hfirst⟩ : ∃ first, lons.find? (fun lon => decide (90.0 < magnitude lon)) =
      some first := by
    obtain ⟨lon, hlon, hbeyond⟩ := h
    rw [← Option.isSome_iff_exists, List.find?_isSome]
    refine ⟨lon, hlon, decide_eq_true ?_⟩
    norm_num
    exact hbeyond
  have hne : first ≠ 0 := by
    rintro rfl
    have := List.find?_some hfirst
    norm_num at this
  rw [ofTies, ofTies, hmirror, hfirst, Option.map_some]
  norm_num
  rcases lt_or_gt_of_ne hne with hneg | hpos
  · rw [if_neg (by linarith), if_pos hneg]
    rfl
  · rw [if_pos hpos, if_neg (by linarith)]
    rfl

/-- A line that has a point with a side, or leaves the prime meridian, sets out from the side
opposite to that of its mirror image. -/
lemma ofStart_neg {lons : List ℝ} (h : ∃ lon ∈ lons, ¬ IsTie lon ∨ 90 < |lon|) :
    ofStart (lons.map Neg.neg) = (ofStart lons).mirror := by
  have hmirror : (lons.map Neg.neg).findSome? ofLongitude? =
      (lons.findSome? ofLongitude?).map mirror := by
    rw [List.findSome?_map, List.map_findSome?]
    congr 1
    exact funext ofLongitude?_neg
  rw [ofStart, ofStart, hmirror]
  cases hfirst : lons.findSome? ofLongitude? with
  | some side => rfl
  | none =>
    rw [Option.map_none, Option.getD_none, Option.getD_none]
    obtain ⟨lon, hlon, htie | hfar⟩ := h
    · have hnone := List.findSome?_eq_none_iff.1 hfirst lon hlon
      exact absurd (ofLongitude?_eq_none_iff.1 hnone) htie
    · exact ofTies_neg ⟨lon, hlon, hfar⟩

/-- A line that stays on the prime meridian counts as east. -/
lemma resolve_eq_replicate_east {lons : List ℝ} (h : ∀ lon ∈ lons, IsTie lon ∧ |lon| ≤ 90) :
    resolve lons = List.replicate lons.length east := by
  refine List.eq_replicate_iff.2 ⟨length_resolve lons, fun side hmem => ?_⟩
  rcases mem_resolve hmem with ⟨lon, hlon, hside⟩ | ⟨-, hside⟩
  · rw [ofLongitude?_eq_none_iff.2 (h lon hlon).1] at hside
    contradiction
  · have hnone : lons.find? (fun lon => decide (90.0 < magnitude lon)) = none := by
      refine List.find?_eq_none.2 fun lon hlon hfar => ?_
      have := (h lon hlon).2
      norm_num at hfar
      linarith
    rw [hside, ofTies, hnone]

end Side

/-! ### Placed points -/

namespace Placed

lemma snapLongitude_neg {side : Side} (h : side ≠ .undefined) (lon : ℝ) :
    snapLongitude side.mirror (-lon) = -snapLongitude side lon := by
  rw [snapLongitude_eq, snapLongitude_eq, magnitude_real, magnitude_real, abs_neg]
  split
  · norm_num
  · cases side with
    | west => norm_num [Side.mirror, Side.seamLon]
    | east => norm_num [Side.mirror, Side.seamLon]
    | undefined => exact absurd rfl h

/-- A point and its mirror image are placed as mirror images, if their sides are opposite. -/
lemma ofPoint_mirror (p : MapPoint ℝ) {side : Side} (h : side ≠ .undefined) :
    ofPoint p.mirror side.mirror = (ofPoint p side).mirror Side.mirror := by
  unfold ofPoint
  rw [MapPoint.mirror_lon, Side.ofLongitude?_neg]
  cases Side.ofLongitude? p.lon with
  | none => simp [mirror, MapPoint.mirror, snapLongitude_neg h]
  | some own => rfl

/-- A tie beside the prime meridian and its mirror image are placed alike on every side. -/
lemma ofPoint_mirror_of_near {p : MapPoint ℝ} (htie : IsTie p.lon) (hnear : |p.lon| ≤ 90)
    (side : Side) : ofPoint p.mirror side = (ofPoint p side).mirror id := by
  have hp := Side.ofLongitude?_eq_none_iff.2 htie
  have hq := Side.ofLongitude?_eq_none_iff.2 (Side.isTie_neg.2 htie)
  have hquarter : magnitude p.lon ≤ 90.0 ∧ magnitude (-p.lon) ≤ 90.0 := by
    rw [magnitude_real, magnitude_real, abs_neg]
    norm_num
    exact hnear
  unfold ofPoint
  rw [MapPoint.mirror_lon, hp, hq]
  simp only [snapLongitude_eq, if_pos hquarter.1, if_pos hquarter.2, mirror, MapPoint.mirror, id]
  norm_num

lemma zipWith_ofPoint_mirror {turn : Side → Side} {points : List (MapPoint ℝ)} {sides : List Side}
    (h : ∀ p ∈ points, ∀ side ∈ sides,
      ofPoint p.mirror (turn side) = (ofPoint p side).mirror turn) :
    List.zipWith ofPoint (points.map MapPoint.mirror) (sides.map turn) =
      (List.zipWith ofPoint points sides).map (mirror turn) := by
  induction points generalizing sides with
  | nil => rfl
  | cons p points ih =>
    cases sides with
    | nil => rfl
    | cons side sides =>
      have hrest := ih fun p hp side hside =>
        h p (List.mem_cons_of_mem _ hp) side (List.mem_cons_of_mem _ hside)
      simp only [List.map_cons, List.zipWith_cons_cons, hrest, h p (by simp) side (by simp)]

/-- A line and its mirror image are placed as mirror images; the sides are swapped, or all of them
are the same. -/
lemma exists_ofPoints_mirror (points : List (MapPoint ℝ)) :
    ∃ turn : Side → Side, (∀ s t, (turn s).isOpposite (turn t) = s.isOpposite t) ∧
      ofPoints (points.map MapPoint.mirror) = (ofPoints points).map (mirror turn) := by
  have hlons : (points.map MapPoint.mirror).map MapPoint.lon =
      (points.map MapPoint.lon).map Neg.neg := by
    rw [List.map_map, List.map_map]
    rfl
  by_cases hside : ∃ lon ∈ points.map MapPoint.lon, ¬ IsTie lon ∨ 90 < |lon|
  · refine ⟨Side.mirror, Side.isOpposite_mirror, ?_⟩
    rw [ofPoints, hlons, Side.resolve, Side.ofStart_neg hside, Side.map_ofLongitude?_neg,
      Side.inherit_map_mirror]
    exact zipWith_ofPoint_mirror fun p _ side hmem =>
      ofPoint_mirror p (Side.ne_undefined_of_mem_resolve hmem)
  · -- nothing but ties beside the prime meridian
    push Not at hside
    have hmirror : ∀ lon ∈ (points.map MapPoint.lon).map Neg.neg, IsTie lon ∧ |lon| ≤ 90 := by
      intro _ hmem
      obtain ⟨lon, hlon, rfl⟩ := List.mem_map.1 hmem
      rw [Side.isTie_neg, abs_neg]
      exact hside lon hlon
    refine ⟨id, fun _ _ => rfl, ?_⟩
    rw [ofPoints, hlons, Side.resolve_eq_replicate_east hmirror, ofPoints,
      Side.resolve_eq_replicate_east hside, List.length_map,
      ← List.map_id (List.replicate (points.map MapPoint.lon).length Side.east)]
    refine (zipWith_ofPoint_mirror fun p hp side _ => ?_).trans (by rw [List.map_id])
    obtain ⟨htie, hnear⟩ := hside p.lon (List.mem_map_of_mem hp)
    exact ofPoint_mirror_of_near htie hnear side

lemma crosses_mirror {turn : Side → Side}
    (hturn : ∀ s t, (turn s).isOpposite (turn t) = s.isOpposite t) (a b : Placed ℝ) :
    (a.mirror turn).crosses (b.mirror turn) = a.crosses b := by
  have hstep : |(b.mirror turn).point.lon - (a.mirror turn).point.lon| =
      |b.point.lon - a.point.lon| := by
    change |-b.point.lon - -a.point.lon| = _
    rw [neg_sub_neg, abs_sub_comm]
  rw [Bool.eq_iff_iff, crosses_real, crosses_real, hstep]
  simp only [mirror, hturn]

end Placed

/-- **East and west are treated alike.**  The mirror image of a line crosses at the same positions as
the line, and is cut into the mirror images of its pieces, in either mode. -/
theorem splitAtSeam_mirror (points : List (MapPoint ℝ)) :
    seamCrossings (points.map MapPoint.mirror) = seamCrossings points ∧
      ∀ mode, splitAtSeam mode (points.map MapPoint.mirror) =
        (splitAtSeam mode points).map Polyline.mirror := by
  obtain ⟨turn, hturn, hplaced⟩ := Placed.exists_ofPoints_mirror points
  exact splitAtSeam_map hplaced (fun _ => rfl) (Placed.crosses_mirror hturn) fun _ => rfl

end GreatCircle
