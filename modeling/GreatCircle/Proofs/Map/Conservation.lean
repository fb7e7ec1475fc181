/-
# Splitting a line loses isolated points only

`splitAtSeam` cuts a line and drops the pieces that cannot be drawn.  What comes out are
stretches of one and the same snapped line, in order and without overlap, and a point is missing
exactly when both of its sides are ends: `splitAtSeam_keeps_all_but_isolated`.
-/
import Mathlib.Data.List.Flatten
import GreatCircle.Proofs.Map.Placement

namespace GreatCircle

/-- Of the pieces of a line those of two points or more can be drawn. -/
lemma Polyline.map_points_filterMap {α : Type} (pieces : List (List (MapPoint α))) :
    (pieces.filterMap Polyline.ofPoints?).map Polyline.points =
      pieces.filter fun piece => decide (2 ≤ piece.length) := by
  induction pieces with
  | nil => rfl
  | cons piece pieces ih =>
    by_cases hlen : 2 ≤ piece.length
    · simp [Polyline.ofPoints?, hlen, ih]
    · simp [Polyline.ofPoints?, hlen, ih]

variable {α : Type} [Scalar α]

lemma splitAtSeam_eq {points : List (MapPoint α)}
    (h : (seamCrossings points).length ≤ 1) (mode : SplitMode) :
    splitAtSeam mode points = splitAtSeam .all points := by
  rw [splitAtSeam, splitAtSeam, seamPieces_eq, seamPieces_eq, SplitMode.cuts_eq h,
    SplitMode.cuts_eq h]

/-- The drawn points are some of the snapped points, in their order. -/
lemma flatten_splitAtSeam_sublist (mode : SplitMode) (points : List (MapPoint α)) :
    ((splitAtSeam mode points).map Polyline.points).flatten.Sublist (snappedPoints points) := by
  rw [splitAtSeam, Polyline.map_points_filterMap]
  have hsub := (List.filter_sublist (p := fun piece => decide (2 ≤ piece.length))
    (l := seamPieces mode points)).flatten
  rwa [seamPieces_eq, flatten_segments] at hsub

lemma mem_snappedPoints_of_mem_splitAtSeam {mode : SplitMode} {points : List (MapPoint α)}
    {line : Polyline α} (hline : line ∈ splitAtSeam mode points) {q : MapPoint α}
    (hq : q ∈ line.points) : q ∈ snappedPoints points :=
  (flatten_splitAtSeam_sublist mode points).subset
    (List.mem_flatten.2 ⟨line.points, List.mem_map_of_mem hline, hq⟩)

/-- A line without crossings stays in one piece. -/
lemma points_splitAtSeam_of_uncrossed {points : List (MapPoint α)} (two_le : 2 ≤ points.length)
    (h : seamCrossings points = []) (mode : SplitMode) :
    (splitAtSeam mode points).map Polyline.points = [snappedPoints points] := by
  have hcuts : mode.cuts [] = [] := by cases mode <;> rfl
  rw [splitAtSeam, Polyline.map_points_filterMap, seamPieces_eq, h, hcuts]
  simpa [segments, segmentsFrom] using two_le

/-- The emitted lines are the slices of the snapped line at its drawn stretches. -/
lemma points_splitAtSeam (mode : SplitMode) (points : List (MapPoint α)) :
    (splitAtSeam mode points).map Polyline.points =
      (drawnStretches points.length (mode.cuts (seamCrossings points))).map
        (Stretch.slice (snappedPoints points)) := by
  have hcuts := cuts_modeCuts mode points
  have hpieces : segmentsFrom 0 (snappedPoints points) (mode.cuts (seamCrossings points)) =
      (stretchesFrom points.length 0 (mode.cuts (seamCrossings points))).map
        (Stretch.slice (snappedPoints points)) := by
    rw [← length_snappedPoints] at hcuts ⊢
    exact segmentsFrom_eq_slices (snappedPoints points) hcuts
  rw [splitAtSeam, Polyline.map_points_filterMap, seamPieces_eq, segments, hpieces,
    List.filter_map, drawnStretches]
  congr 1
  refine List.filter_congr fun s hs => ?_
  have hstop := (isPiece_of_mem_stretchesFrom (Nat.zero_le _) hcuts hs).stop_le
  simp [Stretch.length_slice, hstop]

/-! ### Lines that are carried over -/

lemma segmentsFrom_map {β γ : Type} (f : β → γ) (start : ℕ) (items : List β) (cuts : List ℕ) :
    segmentsFrom start (items.map f) cuts = (segmentsFrom start items cuts).map (List.map f) := by
  induction cuts generalizing start items with
  | nil => rfl
  | cons cut cuts ih =>
    rw [segmentsFrom, segmentsFrom, List.map_cons, List.map_take, ← List.map_drop, ih]

/-- Where a map of points takes placed points to placed points, and crossing steps to crossing
steps, a line and its image cross at the same positions, and the pieces of the one are carried to
the pieces of the other. -/
lemma splitAtSeam_map {β : Type} [Scalar β] {f : MapPoint α → MapPoint β}
    {g : Placed α → Placed β} {carry : Polyline α → Polyline β} {points : List (MapPoint α)}
    (hplaced : Placed.ofPoints (points.map f) = (Placed.ofPoints points).map g)
    (hpoint : ∀ a, (g a).point = f a.point) (hcross : ∀ a b, (g a).crosses (g b) = a.crosses b)
    (hcarry : ∀ line, (carry line).points = line.points.map f) :
    seamCrossings (points.map f) = seamCrossings points ∧
      ∀ mode, splitAtSeam mode (points.map f) = (splitAtSeam mode points).map carry := by
  have hcrossings : seamCrossings (points.map f) = seamCrossings points := by
    rw [seamCrossings, hplaced]
    exact Placed.crossingsFrom_map hcross 0 _
  have hsnapped : snappedPoints (points.map f) = (snappedPoints points).map f := by
    rw [snappedPoints, hplaced, snappedPoints, List.map_map, List.map_map]
    exact List.map_congr_left fun a _ => hpoint a
  have hline (piece : List (MapPoint α)) :
      Polyline.ofPoints? (piece.map f) = (Polyline.ofPoints? piece).map carry := by
    by_cases hlen : 2 ≤ piece.length
    · have hpiece : Polyline.ofPoints? piece = some ⟨piece, hlen⟩ := dif_pos hlen
      rw [hpiece, Option.map_some, Polyline.ofPoints?_eq_some_iff]
      exact hcarry ⟨piece, hlen⟩
    · simp [Polyline.ofPoints?, hlen]
  refine ⟨hcrossings, fun mode => ?_⟩
  rw [splitAtSeam, splitAtSeam, seamPieces_eq, seamPieces_eq, hsnapped, hcrossings, segments,
    segments, segmentsFrom_map, List.filterMap_map, List.map_filterMap]
  exact List.filterMap_congr fun piece _ => hline piece

/-- **Splitting loses isolated points only.**  The emitted lines are stretches of the snapped
line that reach from cut to cut; they come in order and do not overlap; a position is in none of
them exactly when it is isolated; together they hold all points but the isolated ones; and the
snapped line is the given one with nothing changed but the longitudes of its ties. -/
theorem splitAtSeam_keeps_all_but_isolated (mode : SplitMode) (points : List (MapPoint α)) :
    ∃ drawn : List Stretch,
      (splitAtSeam mode points).map Polyline.points =
          drawn.map (Stretch.slice (snappedPoints points)) ∧
        (∀ s ∈ drawn, IsPiece 0 points.length (mode.cuts (seamCrossings points)) s) ∧
        drawn.Pairwise (fun s t => s.stop ≤ t.first) ∧
        (∀ k < points.length, (∀ s ∈ drawn, k ∉ s) ↔
          IsIsolated points.length (mode.cuts (seamCrossings points)) k) ∧
        ((splitAtSeam mode points).map fun line => line.points.length).sum +
            ((List.range points.length).filter fun k => decide
              (IsIsolated points.length (mode.cuts (seamCrossings points)) k)).length =
          points.length ∧
        List.Forall₂ MapPoint.SnapsTo points (snappedPoints points) := by
  have hcuts := cuts_modeCuts mode points
  refine ⟨drawnStretches points.length (mode.cuts (seamCrossings points)),
    points_splitAtSeam mode points, fun s hs => isPiece_of_mem_drawnStretches hcuts hs,
    pairwise_drawnStretches hcuts, fun k hk => forall_notMem_drawnStretches_iff hcuts hk,
    ?_, forall₂_snapsTo points⟩
  have hlengths : (splitAtSeam mode points).map (fun line => line.points.length) =
      (drawnStretches points.length (mode.cuts (seamCrossings points))).map Stretch.length := by
    have h := congrArg (List.map List.length) (points_splitAtSeam mode points)
    rw [List.map_map, List.map_map] at h
    refine h.trans (List.map_congr_left fun s hs => ?_)
    have hstop := (isPiece_of_mem_drawnStretches hcuts hs).stop_le
    simp [Stretch.length_slice, hstop]
  rw [hlengths]
  exact sum_length_drawnStretches hcuts

end GreatCircle
