/-
# Pieces are not split again

A drawn piece has lost the points around it, and its ties may have taken their side from one of
those.  Still, splitting the piece again changes nothing.  The reason is that a step that is not cut
never leads to the antimeridian from the wrong half of the map, so a tie's neighbours in the piece,
or the tie's own sign if all of them are ties on the antimeridian, tell the side that it was given.

A line in this state is called settled (`IsSettled`).  Every drawn piece is settled
(`isSettled_of_mem_splitAtSeam`), and a settled line is a fixed point of the tie rule
(`IsSettled.snappedPoints_eq`) without crossings (`IsSettled.seamCrossings_eq`); from these
`splitAtSeam_of_mem_splitAtSeam` follows.
-/
import GreatCircle.Proofs.Map.Conservation
import GreatCircle.Proofs.Map.PairTest
import GreatCircle.Proofs.Map.SeamLaws

namespace GreatCircle

open Scalar

variable {α : Type} [Scalar α]

/-- A longitude as the tie rule leaves it: on a meridian, or on the map and no tie. -/
structure IsSettledLon (lon : α) : Prop where
  tie : IsTie lon → lon = 0.0 ∨ lon = 180.0 ∨ lon = -180.0
  onMap : ¬ IsTie lon → -180.0 ≤ lon ∧ lon ≤ 180.0

/-- A step that is not cut, wherever it stands: it is shorter than half a turn, or between two
longitudes with sides that are not opposite. -/
def IsQuietStep (a b : α) : Prop :=
  180.0 ≤ magnitude (b - a) →
    ∃ s t, Side.ofLongitude? a = some s ∧ Side.ofLongitude? b = some t ∧ s.isOpposite t = false

/-- A line without crossings on which the ties are in place. -/
structure IsSettled (points : List (MapPoint α)) : Prop where
  lons : ∀ p ∈ points, IsSettledLon p.lon
  steps : points.IsChain fun p q => IsQuietStep p.lon q.lon

lemma IsSettled.tail {p : MapPoint α} {points : List (MapPoint α)} (h : IsSettled (p :: points)) :
    IsSettled points :=
  ⟨fun q hq => h.lons q (by simp [hq]), h.steps.tail⟩

/-! ### Beside the antimeridian -/

section Neighbours

variable [SeamLaws α]

/-- A settled longitude is the prime meridian, or the antimeridian as one of the sides writes it, or
it has a side and is on that side's half. -/
lemma IsSettledLon.cases {lon : α} (h : IsSettledLon lon) :
    lon = 0.0 ∨ (∃ s : Side, s ≠ .undefined ∧ lon = s.seamLon) ∨
      ∃ s : Side, Side.ofLongitude? lon = some s ∧ s.OnHalf lon := by
  by_cases htie : IsTie lon
  · rcases h.tie htie with hzero | heast | hwest
    · exact Or.inl hzero
    · exact Or.inr (Or.inl ⟨.east, by simp, heast⟩)
    · exact Or.inr (Or.inl ⟨.west, by simp, hwest⟩)
  · right
    right
    obtain ⟨s, hs⟩ := Side.exists_of_not_isTie htie
    obtain ⟨hlow, hhigh⟩ := h.onMap htie
    exact ⟨s, hs, SeamLaws.onHalf_of_side hlow hhigh hs⟩

/-- No quiet step leads between the antimeridian of one side and the other half of the map. -/
lemma not_onHalf_of_quietStep {lon : α} {s t : Side} (hopposite : t.isOpposite s = true)
    (hquiet : IsQuietStep s.seamLon lon ∨ IsQuietStep lon s.seamLon) : ¬ t.OnHalf lon := by
  intro hhalf
  have hnone : Side.ofLongitude? (s.seamLon : α) = none :=
    Side.ofLongitude?_eq_none_iff.2 (SeamLaws.isTie_seam s)
  obtain ⟨hlong, hlong'⟩ := SeamLaws.seam_step hhalf hopposite
  -- the step is long, so the antimeridian would have a side of its own
  rcases hquiet with hquiet | hquiet
  · obtain ⟨_, _, hside, -, -⟩ := hquiet hlong
    rw [hnone] at hside
    contradiction
  · obtain ⟨_, _, -, hside, -⟩ := hquiet hlong'
    rw [hnone] at hside
    contradiction

/-- What is a quiet step away from the antimeridian as `s` writes it is written the same, or has the
side `s`. -/
lemma eq_or_side_of_quietStep {lon : α} {s : Side} (hs : s ≠ .undefined) (h : IsSettledLon lon)
    (hquiet : IsQuietStep s.seamLon lon ∨ IsQuietStep lon s.seamLon) :
    lon = s.seamLon ∨ Side.ofLongitude? lon = some s := by
  have hhalf {t : Side} (ht : t ≠ .undefined) (hlon : t.OnHalf lon) : t = s := by
    rcases Side.eq_or_isOpposite ht hs with heq | hopposite
    · exact heq
    · exact absurd hlon (not_onHalf_of_quietStep hopposite hquiet)
  rcases h.cases with rfl | ⟨t, ht, rfl⟩ | ⟨t, ht, hlon⟩
  · -- the prime meridian is on both halves, so one of them is the wrong one
    have hwest := hhalf (t := .west) (by simp) (SeamLaws.onHalf_zero _ (by simp))
    have heast := hhalf (t := .east) (by simp) (SeamLaws.onHalf_zero _ (by simp))
    rw [← hwest] at heast
    contradiction
  · left
    rw [hhalf ht (SeamLaws.onHalf_seam t ht)]
  · right
    have hdefined : t ≠ .undefined := by
      rintro rfl
      exact hlon
    rw [ht, hhalf hdefined hlon]

end Neighbours

/-! ### Settled lines are fixed points -/

/-- On the side the tie rule leaves the longitude as it is. -/
def Side.Keeps (side : Side) (lon : α) : Prop := IsTie lon → Placed.snapLongitude side lon = lon

lemma Side.Keeps.point_ofPoint {p : MapPoint α} {side : Side} (h : side.Keeps p.lon) :
    (Placed.ofPoint p ((Side.ofLongitude? p.lon).getD side)).point = p := by
  unfold Placed.ofPoint
  split
  · rename_i hnone
    rw [hnone, Option.getD_none, h (Side.ofLongitude?_eq_none_iff.1 hnone)]
  · rfl

lemma Side.inherit_cons (last : Side) (own : Option Side) (rest : List (Option Side)) :
    inherit last (own :: rest) = own.getD last :: inherit (own.getD last) rest := by
  cases own <;> rfl

section Fixed

variable [SeamLaws α]

/-- Along a quiet step the side that leaves one longitude alone leads to a side that leaves the next
one alone. -/
lemma Side.Keeps.next {a b : α} {side : Side} (hkeeps : side.Keeps a) (ha : IsSettledLon a)
    (hb : IsSettledLon b) (hquiet : IsQuietStep a b) :
    ((Side.ofLongitude? a).getD side).Keeps b := by
  intro htie
  rcases hb.cases with rfl | ⟨s, hs, rfl⟩ | ⟨s, hs, -⟩
  · exact Placed.snapLongitude_zero _
  · rcases eq_or_side_of_quietStep hs ha (Or.inr hquiet) with rfl | hside
    · rw [Side.ofLongitude?_eq_none_iff.2 htie]
      exact hkeeps htie
    · rw [hside]
      exact Placed.snapLongitude_seamLon s s
  · rw [Side.ofLongitude?_eq_none_iff.2 htie] at hs
    contradiction

/-- Among ties, a first one on the antimeridian decides by its sign. -/
lemma Side.ofTies_cons_seamLon {s : Side} (hs : s ≠ .undefined) (lons : List α) :
    ofTies (s.seamLon :: lons) = s := by
  have hfar : decide (90.0 < magnitude (s.seamLon : α)) = true :=
    decide_eq_true (SeamLaws.seam_far s)
  have hfind : (s.seamLon :: lons).find? (fun lon => decide (90.0 < magnitude lon)) =
      some s.seamLon := by
    rw [List.find?_cons_of_pos]
    exact hfar
  rw [ofTies, hfind]
  cases s with
  | west => exact if_pos SeamLaws.west_neg
  | east => exact if_neg SeamLaws.east_not_neg
  | undefined => contradiction

namespace IsSettled

variable {points : List (MapPoint α)}

/-- Where the first longitude is left alone, all are.  The induction is on the line, with the side
that is handed on. -/
lemma map_point_ofPoint (h : IsSettled points) {side : Side}
    (hside : ∀ p ∈ points.head?, side.Keeps p.lon) :
    (List.zipWith Placed.ofPoint points
      (Side.inherit side ((points.map MapPoint.lon).map Side.ofLongitude?))).map Placed.point =
      points := by
  induction points generalizing side with
  | nil => rfl
  | cons p rest ih =>
    have hp : side.Keeps p.lon := hside p rfl
    have hrest : ∀ q ∈ rest.head?, ((Side.ofLongitude? p.lon).getD side).Keeps q.lon := by
      intro q hq
      obtain ⟨rest, rfl⟩ := List.head?_eq_some_iff.1 hq
      exact hp.next (h.lons p (by simp)) (h.lons q (by simp)) (List.isChain_cons_cons.1 h.steps).1
    rw [List.map_cons, List.map_cons, Side.inherit_cons, List.zipWith_cons_cons, List.map_cons,
      hp.point_ofPoint, ih h.tail hrest]

/-- From a point on the antimeridian the first side that follows is the one that writes the
antimeridian so. -/
lemma eq_of_findSome?_side {p : MapPoint α} {s t : Side} (h : IsSettled (p :: points))
    (hs : s ≠ .undefined) (hp : p.lon = s.seamLon)
    (ht : (points.map MapPoint.lon).findSome? Side.ofLongitude? = some t) : t = s := by
  induction points generalizing p with
  | nil => simp at ht
  | cons q rest ih =>
    have hquiet := (List.isChain_cons_cons.1 h.steps).1
    rw [hp] at hquiet
    rw [List.map_cons, List.findSome?_cons] at ht
    rcases eq_or_side_of_quietStep hs (h.lons q (by simp)) (Or.inl hquiet) with hq | hside
    · have hnone : Side.ofLongitude? q.lon = none := by
        rw [hq, Side.ofLongitude?_eq_none_iff]
        exact SeamLaws.isTie_seam s
      rw [hnone] at ht
      exact ih h.tail hq ht
    · rw [hside] at ht
      exact (Option.some.inj ht).symm

/-- The side from which a settled line sets out leaves its first point alone. -/
lemma keeps_ofStart {p : MapPoint α} (h : IsSettled (p :: points)) :
    (Side.ofStart ((p :: points).map MapPoint.lon)).Keeps p.lon := by
  intro htie
  rcases (h.lons p (by simp)).cases with hp | ⟨s, hs, hp⟩ | ⟨s, hs, -⟩
  · rw [hp]
    exact Placed.snapLongitude_zero _
  · have hstart : Side.ofStart ((p :: points).map MapPoint.lon) = s := by
      rw [Side.ofStart, List.map_cons, List.findSome?_cons, Side.ofLongitude?_eq_none_iff.2 htie]
      cases hfirst : (points.map MapPoint.lon).findSome? Side.ofLongitude? with
      | none =>
        rw [Option.getD_none, hp]
        exact Side.ofTies_cons_seamLon hs _
      | some t => exact h.eq_of_findSome?_side hs hp hfirst
    rw [hstart, hp]
    exact Placed.snapLongitude_seamLon s s
  · rw [Side.ofLongitude?_eq_none_iff.2 htie] at hs
    contradiction

/-- **Ties in place stay in place.** -/
theorem snappedPoints_eq (h : IsSettled points) : snappedPoints points = points := by
  refine h.map_point_ofPoint fun p hp => ?_
  obtain ⟨rest, rfl⟩ := List.head?_eq_some_iff.1 hp
  exact h.keeps_ofStart

/-- **A settled line has no crossing.** -/
theorem seamCrossings_eq (h : IsSettled points) : seamCrossings points = [] := by
  refine List.eq_nil_iff_forall_not_mem.2 fun i hi => ?_
  obtain ⟨a, b, ha, hb, hcross⟩ := Placed.mem_crossings_iff.1 hi
  have hp : points[i]? = some a.point := by
    rw [← h.snappedPoints_eq, snappedPoints, List.getElem?_map, ha, Option.map_some]
  have hq : points[i + 1]? = some b.point := by
    rw [← h.snappedPoints_eq, snappedPoints, List.getElem?_map, hb, Option.map_some]
  rw [Placed.crosses, Bool.and_eq_true, decide_eq_true_eq] at hcross
  -- a long step that is quiet is between sides that are not opposite
  obtain ⟨hlt, hget⟩ := List.getElem?_eq_some_iff.1 hq
  have hquiet := List.isChain_iff_getElem.1 h.steps i hlt
  rw [hget, (List.getElem?_eq_some_iff.1 hp).2] at hquiet
  obtain ⟨s, t, hs, ht, hsame⟩ := hquiet hcross.1
  rw [mem_seamCrossings_iff_of_sides hp hq hs ht, hsame] at hi
  simp at hi

end IsSettled

end Fixed

/-! ### Drawn pieces are settled -/

section Drawn

variable {points : List (MapPoint α)}

/-- A step of the line that is cut is quiet unless it is a crossing. -/
lemma isQuietStep_of_notMem {i : ℕ} {p q : MapPoint α} (hi : i ∉ seamCrossings points)
    (hp : (snappedPoints points)[i]? = some p) (hq : (snappedPoints points)[i + 1]? = some q) :
    IsQuietStep p.lon q.lon := by
  intro hlong
  rw [snappedPoints, List.getElem?_map, Option.map_eq_some_iff] at hp hq
  obtain ⟨a, ha, rfl⟩ := hp
  obtain ⟨b, hb, rfl⟩ := hq
  have hnot : ¬ a.crosses b = true := fun hcross =>
    hi (Placed.mem_crossings_iff.2 ⟨a, b, ha, hb, hcross⟩)
  rw [Placed.crosses, decide_eq_true hlong, Bool.true_and, Bool.not_eq_true, Bool.or_eq_false_iff,
    Bool.or_eq_false_iff] at hnot
  obtain ⟨⟨hside, htieA⟩, htieB⟩ := hnot
  obtain ⟨p, -, rfl, hownA⟩ := Placed.eq_of_isTie_eq_false ha htieA
  obtain ⟨q, -, rfl, hownB⟩ := Placed.eq_of_isTie_eq_false hb htieB
  exact ⟨_, _, hownA, hownB, hside⟩

lemma Stretch.getElem?_slice {β : Type} {items : List β} {s : Stretch} {i : ℕ}
    (h : s.first + i < s.stop) : (s.slice items)[i]? = items[s.first + i]? := by
  rw [slice, List.extract_eq_take_drop, List.getElem?_take_of_lt (by omega), List.getElem?_drop]

variable [SeamLaws α] (hlon : ∀ p ∈ points, -180.0 ≤ p.lon ∧ p.lon ≤ 180.0)
include hlon

/-- On the map the tie rule settles every longitude. -/
lemma isSettledLon_of_mem_snappedPoints {q : MapPoint α} (hq : q ∈ snappedPoints points) :
    IsSettledLon q.lon := by
  obtain ⟨p, hp, hsnaps⟩ := exists_snapsTo_of_mem hq
  by_cases htie : IsTie p.lon
  · have hmeridian := hsnaps.of_tie htie
    refine ⟨fun _ => hmeridian, fun hno => absurd ?_ hno⟩
    rcases hmeridian with heq | heq | heq
    · rw [heq]
      exact SeamLaws.isTie_zero
    · rw [heq]
      exact SeamLaws.isTie_seam .east
    · rw [heq]
      exact SeamLaws.isTie_seam .west
  · rw [hsnaps.of_not_tie htie]
    exact ⟨fun h => absurd h htie, fun _ => hlon p hp⟩

/-- **What is drawn is settled.** -/
theorem isSettled_of_mem_splitAtSeam {line : Polyline α} (h : line ∈ splitAtSeam .all points) :
    IsSettled line.points := by
  have hline := List.mem_map_of_mem (f := Polyline.points) h
  rw [points_splitAtSeam] at hline
  obtain ⟨s, hs, hslice⟩ := List.mem_map.1 hline
  have hpiece := isPiece_of_mem_drawnStretches (cuts_modeCuts .all points) hs
  have hlength : line.points.length = s.length := by
    rw [← hslice, Stretch.length_slice (by simpa using hpiece.stop_le)]
  have hget {i : ℕ} (hi : i < line.points.length) :
      (snappedPoints points)[s.first + i]? = some line.points[i] := by
    rw [hlength, Stretch.length] at hi
    rw [← Stretch.getElem?_slice (by omega), hslice, List.getElem?_eq_getElem]
  refine ⟨fun p hp => ?_, List.isChain_iff_getElem.2 fun i hi => ?_⟩
  · obtain ⟨i, hi, rfl⟩ := List.mem_iff_getElem.1 hp
    exact isSettledLon_of_mem_snappedPoints hlon (List.mem_of_getElem? (hget hi))
  · refine isQuietStep_of_notMem (fun hmem => ?_) (hget (by omega)) (hget hi)
    -- a cut inside of a piece ends it
    rw [hlength, Stretch.length] at hi
    have := hpiece.uncut _ hmem ⟨by omega, by omega⟩
    omega

/-- **Splitting again changes nothing.**  A line on the map is cut into pieces; every piece that is
drawn comes out of another splitting, in either mode, as it went in: it has no crossing, and none of
its points is moved, on whichever side of the cut the ties found the point that gave them theirs.
This is so over all numbers that obey the laws of the seam, exact real numbers among them. -/
theorem splitAtSeam_of_mem_splitAtSeam {line : Polyline α}
    (hline : line ∈ splitAtSeam .all points) :
    (∀ mode, splitAtSeam mode line.points = [line]) ∧
      seamCrossings line.points = [] ∧ snappedPoints line.points = line.points := by
  have hsettled := isSettled_of_mem_splitAtSeam hlon hline
  refine ⟨fun mode => ?_, hsettled.seamCrossings_eq, hsettled.snappedPoints_eq⟩
  have hcuts : mode.cuts [] = [] := by cases mode <;> rfl
  rw [splitAtSeam, seamPieces_eq, hsettled.snappedPoints_eq, hsettled.seamCrossings_eq, hcuts]
  simp [segments, segmentsFrom]

end Drawn

/-- A line from the east that stops on the prime meridian and then stays on the antimeridian, which
is written -180.  It is cut between the meridians; the second piece holds ties only, written 180 for
a point that it no longer has, and written so again. -/
theorem splitAtSeam_of_mem_splitAtSeam_ties :
    let points : List (MapPoint ℝ) := [⟨90, 10⟩, ⟨0, 20⟩, ⟨-180, 30⟩, ⟨-180, 40⟩]
    (∀ p ∈ points, -180 ≤ p.lon ∧ p.lon ≤ 180) ∧
      ∃ line ∈ splitAtSeam .all points, line.points = [⟨180, 30⟩, ⟨180, 40⟩] ∧
        splitAtSeam .all line.points = [line] := by
  intro points
  have hlon : ∀ p ∈ points, -180 ≤ p.lon ∧ p.lon ≤ 180 := by
    intro p hp
    simp only [points, List.mem_cons, List.not_mem_nil, or_false] at hp
    rcases hp with rfl | rfl | rfl | rfl <;> norm_num
  have heast := Side.ofLongitude?_quarter_turn.1
  have hzero : Side.ofLongitude? (0 : ℝ) = none := by
    norm_num [Side.ofLongitude?_real, Side.seamSine_real, Side.tieTolerance]
  have hseam : Side.ofLongitude? (-180 : ℝ) = none := by
    norm_num [Side.ofLongitude?_real, Side.seamSine_real, radians_neg, Side.tieTolerance]
  have hplaced : Placed.ofPoints points =
      [⟨⟨90, 10⟩, .east, false⟩, ⟨⟨0, 20⟩, .east, true⟩, ⟨⟨180, 30⟩, .east, true⟩,
        ⟨⟨180, 40⟩, .east, true⟩] := by
    norm_num [points, Placed.ofPoints, Side.resolve, Side.ofStart, Side.inherit, Placed.ofPoint,
      Placed.snapLongitude, heast, hzero, hseam]
  let line : Polyline ℝ := ⟨[⟨180, 30⟩, ⟨180, 40⟩], by simp⟩
  have hline : line ∈ splitAtSeam .all points := by
    refine List.mem_filterMap.2 ⟨line.points, ?_, Polyline.ofPoints?_points line⟩
    norm_num [seamPieces, hplaced, Placed.crossings, Placed.crossingsFrom, Placed.crosses,
      SplitMode.cuts, segments, segmentsFrom, line]
  refine ⟨hlon, line, hline, rfl, (splitAtSeam_of_mem_splitAtSeam (fun p hp => ?_) hline).1 .all⟩
  norm_num
  exact hlon p hp

end GreatCircle
