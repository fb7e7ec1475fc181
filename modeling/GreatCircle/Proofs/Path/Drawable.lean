/-
# Every route can be drawn

`Route.between` has an answer for any two places: identical, opposite and polar ones included
(`between_drawable`).  Each stage gives the next one what it needs: the vectors of the places lie on
the sphere, so there is a rotation between them; its parts are asked for at times from 0 to 1; every
vector has a place; and what the split leaves has two points at least.

Nor does any formula on the way divide by zero: the route comes out the same over `Checked` numbers
(`Route.checked_between`).
-/
import GreatCircle.Path.Route
import GreatCircle.Proofs.Map.CheckedLine
import GreatCircle.Proofs.Map.OneWay
import GreatCircle.Proofs.Sphere.CheckedSampling

namespace GreatCircle

open Scalar

/-! ### The points of a route -/

section Points

variable {start finish : GeoPoint ℝ} {n : StepCount} {vectors : List (Vec3 ℝ)}

/-- The points of a route are the places of the sampled vectors. -/
lemma GeoPoint.pathTo_eq_ok (h : start.toVec3.sampleTo finish.toVec3 n = .ok vectors) :
    start.pathTo finish n = .ok (vectors.map fun v => v.place.toMapPoint) := by
  rw [pathTo, sampleTo_eq_ok h]
  change Except.ok ((vectors.map Vec3.place).map toMapPoint) = _
  rw [List.map_map]
  rfl

/-- Where there are points there is a route through them, in either mode. -/
lemma Route.exists_between {points : List (MapPoint ℝ)} (h : start.pathTo finish n = .ok points) :
    ∃ angle, ∀ style mode, Route.between start finish n style mode = .ok
      { angle := angle
        points := points
        cuts := mode.cuts (seamCrossings points)
        lines := (splitAtSeam mode points).map fun line => ⟨line, style⟩ } := by
  cases hrotation : Orientation.between start.toVec3 finish.toVec3 with
  | error fault =>
    -- without a rotation there would be no points
    have hnone : start.pathTo finish n = .error fault := by
      rw [GeoPoint.pathTo, GeoPoint.sampleTo, Vec3.sampleTo, hrotation]
      rfl
    rw [hnone] at h
    contradiction
  | ok rotation =>
    refine ⟨rotation.angle, fun style mode => ?_⟩
    rw [Route.between, hrotation, h]
    rfl

/-- A place is on the map. -/
lemma GeoPoint.onMap (p : GeoPoint ℝ) : |p.toMapPoint.lon| ≤ 180 ∧ |p.toMapPoint.lat| ≤ 90 :=
  ⟨p.abs_lon_le, p.abs_lat_le⟩

end Points

/-! ### Routes over checked numbers -/

/-- The styled line in checked numbers. -/
def StyledLine.checked (styled : StyledLine ℝ) : StyledLine Checked :=
  ⟨styled.line.checked, styled.style⟩

/-- The route in checked numbers. -/
def Route.checked (route : Route ℝ) : Route Checked where
  angle := .of route.angle
  points := route.points.map MapPoint.checked
  cuts := route.cuts
  lines := route.lines.map StyledLine.checked

lemma GeoPoint.checked_pathTo {start finish : GeoPoint ℝ} {n : StepCount}
    {points : List (MapPoint ℝ)} (h : start.pathTo finish n = .ok points) :
    start.checked.pathTo finish.checked n = .ok (points.map MapPoint.checked) := by
  obtain ⟨e, θ, -, -, -, hvectors⟩ :=
    exists_sampleTo_eq_evenPoints start.onSphere_toVec3 finish.onSphere_toVec3 n
  obtain rfl : _ = points := Except.ok.inj ((pathTo_eq_ok hvectors).symm.trans h)
  rw [pathTo, checked_sampleTo hvectors]
  change Except.ok (List.map toMapPoint _) = _
  rw [List.map_map, List.map_map, List.map_map]
  rfl

/-- A route comes out the same over checked numbers. -/
lemma Route.checked_between {start finish : GeoPoint ℝ} {n : StepCount} {style : LineStyle}
    {mode : SplitMode} {points : List (MapPoint ℝ)} {route : Route ℝ}
    (hpath : start.pathTo finish n = .ok points)
    (h : Route.between start finish n style mode = .ok route) :
    Route.between start.checked finish.checked n style mode = .ok route.checked := by
  obtain ⟨rotation, hrotation, -, hchecked⟩ :=
    Orientation.exists_between start.toVec3 finish.toVec3
  obtain ⟨hcrossings, hlines⟩ := checked_splitAtSeam points
  rw [between, hrotation, hpath] at h
  rw [between, GeoPoint.checked_toVec3, GeoPoint.checked_toVec3, hchecked,
    GeoPoint.checked_pathTo hpath, ← Except.ok.inj h]
  change Except.ok _ = Except.ok _
  simp only [checked, hcrossings, hlines, List.map_map]
  rfl

/-! ### The drawn points among the points of a route -/

/-- Moving a tie keeps a point on the map. -/
lemma MapPoint.SnapsTo.onMap {p q : MapPoint ℝ} (h : p.SnapsTo q)
    (hp : |p.lon| ≤ 180 ∧ |p.lat| ≤ 90) : |q.lon| ≤ 180 ∧ |q.lat| ≤ 90 := by
  refine ⟨?_, by rw [h.lat_eq]; exact hp.2⟩
  by_cases htie : IsTie p.lon
  · rcases h.of_tie htie with hlon | hlon | hlon <;> norm_num [hlon]
  · rw [h.of_not_tie htie]
    exact hp.1

/-- A line on the map is drawn on the map. -/
lemma onMap_of_mem_splitAtSeam {mode : SplitMode} {points : List (MapPoint ℝ)}
    (h : ∀ p ∈ points, |p.lon| ≤ 180 ∧ |p.lat| ≤ 90) {line : Polyline ℝ}
    (hline : line ∈ splitAtSeam mode points) {q : MapPoint ℝ} (hq : q ∈ line.points) :
    |q.lon| ≤ 180 ∧ |q.lat| ≤ 90 := by
  obtain ⟨p, hp, hsnaps⟩ := exists_snapsTo_of_mem (mem_snappedPoints_of_mem_splitAtSeam hline hq)
  exact hsnaps.onMap (h p hp)

/-- What whoever draws the lines of a route can rely on. -/
structure Drawable (n : StepCount) (style : LineStyle) (mode : SplitMode)
    (lines : List (StyledLine ℝ)) : Prop where
  styled : ∀ line ∈ lines, line.style = style
  two_le : ∀ line ∈ lines, 2 ≤ line.line.points.length
  onMap : ∀ line ∈ lines, ∀ p ∈ line.line.points, |p.lon| ≤ 180 ∧ |p.lat| ≤ 90
  /-- No point is drawn twice. -/
  count_le : (lines.map fun line => line.line.points.length).sum ≤ n.val + 1
  /-- Cut at every crossing, no line runs across the map. -/
  short : mode = .all → ∀ line ∈ lines,
    line.line.points.IsChain fun p q => |q.lon - p.lon| < 180

/-- Where the formulas on the way divide without asking for zero, there is no zero: at the length of
the two axes, at the number of steps, and at the distance from the polar axis. -/
structure DivisorsNonzero (n : StepCount) (vectors : List (Vec3 ℝ)) : Prop where
  polarAxis : (polarAxis : Vec3 ℝ).norm ≠ 0
  eastWestAxis : (eastWestAxis : Vec3 ℝ).norm ≠ 0
  steps : (ofNat n.val : ℝ) ≠ 0
  horizontal : ∀ v ∈ vectors, ¬ v.horizontal < Vec3.poleTolerance → v.horizontal ≠ 0

lemma divisorsNonzero (n : StepCount) (vectors : List (Vec3 ℝ)) : DivisorsNonzero n vectors := by
  refine ⟨norm_polarAxis_ne_zero, norm_eastWestAxis_ne_zero, ?_, ?_⟩
  · rw [ofNat_real]
    exact n.cast_pos.ne'
  · intro v _ hoff
    exact (Vec3.horizontal_pos (not_lt.1 hoff)).ne'

/-- The lines of a route whose points are on the map can be drawn. -/
lemma drawable_splitAtSeam {n : StepCount} {points : List (MapPoint ℝ)}
    (hlength : points.length = n.val + 1) (h : ∀ p ∈ points, |p.lon| ≤ 180 ∧ |p.lat| ≤ 90)
    (style : LineStyle) (mode : SplitMode) :
    Drawable n style mode ((splitAtSeam mode points).map fun line => ⟨line, style⟩) := by
  refine ⟨?_, ?_, ?_, ?_, ?_⟩
  · intro styled hstyled
    obtain ⟨line, -, rfl⟩ := List.mem_map.1 hstyled
    rfl
  · intro styled _
    exact styled.line.two_le
  · intro styled hstyled
    obtain ⟨line, hline, rfl⟩ := List.mem_map.1 hstyled
    exact fun q hq => onMap_of_mem_splitAtSeam h hline hq
  · have hcount := (flatten_splitAtSeam_sublist mode points).length_le
    rw [List.length_flatten, List.map_map, length_snappedPoints, hlength] at hcount
    rw [List.map_map]
    exact hcount
  · rintro rfl styled hstyled
    obtain ⟨line, hline, rfl⟩ := List.mem_map.1 hstyled
    have hne : points ≠ [] := List.ne_nil_of_length_eq_add_one hlength
    exact isChain_short_of_mem_splitAtSeam hne (fun p hp => abs_le.1 (h p hp).1) hline

/-- **Every route can be drawn.**  Between any two places, in any number of steps, there is a route,
and no formula on the way to it divides by zero: over numbers in which that has no answer, the route
comes out the same.  Its lines have the given style and two points at least, all on the map;
together they have no more points than were sampled; and where the route is cut at every crossing,
no step of a line is half a turn or more. -/
theorem between_drawable (start finish : GeoPoint ℝ) (n : StepCount) (style : LineStyle)
    (mode : SplitMode) :
    ∃ vectors route, start.toVec3.sampleTo finish.toVec3 n = .ok vectors ∧
      DivisorsNonzero n vectors ∧
      Route.between start finish n style mode = .ok route ∧
      Route.between start.checked finish.checked n style mode = .ok route.checked ∧
      Drawable n style mode route.lines := by
  obtain ⟨e, θ, -, -, -, hvectors⟩ :=
    exists_sampleTo_eq_evenPoints start.onSphere_toVec3 finish.onSphere_toVec3 n
  have hpath := GeoPoint.pathTo_eq_ok hvectors
  obtain ⟨angle, hroute⟩ := Route.exists_between hpath
  refine ⟨_, _, hvectors, divisorsNonzero n _, hroute style mode,
    Route.checked_between hpath (hroute style mode), ?_⟩
  refine drawable_splitAtSeam (by simp [evenPoints]) (fun p hp => ?_) style mode
  obtain ⟨v, -, rfl⟩ := List.mem_map.1 hp
  exact v.place.onMap

end GreatCircle
