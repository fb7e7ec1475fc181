/-
# Lines that go on

A tie may take its side from a point that comes after it.  So when points are added to the end of a
line, it is not evident that the points before them stay where they are.  But the only ties that
look ahead are those before the first point with a side, and they look no further than that point.
A line that has such a point can therefore be cut while it is still being drawn:
`seamPieces_of_continuation`.

Everything here holds for every kind of numbers, undefined ones included.
-/
import Mathlib.Data.List.Infix
import GreatCircle.Proofs.Map.ExactSide

namespace GreatCircle

variable {α : Type} [Scalar α]

/-! ### Sides -/

namespace Side

/-- A scan does not see what follows. -/
lemma exists_inherit_append (last : Side) (sides more : List (Option Side)) :
    ∃ rest, inherit last (sides ++ more) = inherit last sides ++ rest := by
  induction sides generalizing last with
  | nil => exact ⟨_, rfl⟩
  | cons own sides ih =>
    cases own with
    | none =>
      obtain ⟨rest, hrest⟩ := ih last
      exact ⟨rest, by simp [inherit, hrest]⟩
    | some side =>
      obtain ⟨rest, hrest⟩ := ih side
      exact ⟨rest, by simp [inherit, hrest]⟩

/-- A line with a point that has a side sets out from the same side however it goes on. -/
lemma ofStart_append {lons : List α} (h : ∃ lon ∈ lons, ¬ IsTie lon) (more : List α) :
    ofStart (lons ++ more) = ofStart lons := by
  obtain ⟨side, hfirst, hstart⟩ := exists_ofStart_eq h
  rw [hstart, ofStart, List.findSome?_append, hfirst, Option.some_or, Option.getD_some]

end Side

/-! ### Placed points and crossings -/

namespace Placed

/-- The points of a line that goes on are placed as they are without the rest. -/
lemma exists_ofPoints_append {points : List (MapPoint α)} (h : ∃ p ∈ points, ¬ IsTie p.lon)
    (more : List (MapPoint α)) : ∃ later, ofPoints (points ++ more) = ofPoints points ++ later := by
  have hside : ∃ lon ∈ points.map MapPoint.lon, ¬ IsTie lon := by
    obtain ⟨p, hp, htie⟩ := h
    exact ⟨p.lon, List.mem_map_of_mem hp, htie⟩
  obtain ⟨sides, hsides⟩ := Side.exists_inherit_append (Side.ofStart (points.map MapPoint.lon))
    ((points.map MapPoint.lon).map Side.ofLongitude?)
    ((more.map MapPoint.lon).map Side.ofLongitude?)
  refine ⟨List.zipWith ofPoint more sides, ?_⟩
  rw [ofPoints, Side.resolve, List.map_append, Side.ofStart_append hside, List.map_append, hsides]
  exact List.zipWith_append (by simp)

/-- The crossings of a line that goes on are those of the line without the rest, and then others
that touch the rest. -/
lemma exists_crossingsFrom_append (position : ℕ) (points more : List (Placed α)) :
    ∃ later, crossingsFrom position (points ++ more) = crossingsFrom position points ++ later ∧
      ∀ i ∈ later, position + points.length ≤ i + 1 := by
  fun_induction crossingsFrom position points with
  | case1 position a b rest hcross ih =>
    obtain ⟨later, hlater, hbound⟩ := ih
    refine ⟨later, ?_, fun i hi => ?_⟩
    · rw [List.cons_append, List.cons_append, crossingsFrom, if_pos hcross, List.cons_append,
        ← hlater, List.cons_append]
    · have := hbound i hi
      simp only [List.length_cons] at this ⊢
      omega
  | case2 position a b rest hcross ih =>
    obtain ⟨later, hlater, hbound⟩ := ih
    refine ⟨later, ?_, fun i hi => ?_⟩
    · rw [List.cons_append, List.cons_append, crossingsFrom, if_neg hcross, ← hlater,
        List.cons_append]
    · have := hbound i hi
      simp only [List.length_cons] at this ⊢
      omega
  | case3 points position hshort =>
    -- one point at most, so every step touches the rest
    refine ⟨crossingsFrom position (points ++ more), rfl, fun i hi => ?_⟩
    have hstart := (cuts_crossingsFrom position (points ++ more)).start_le i hi
    have hlength : points.length ≤ 1 := by
      obtain rfl | ⟨a, rfl⟩ := eq_nil_or_singleton hshort <;> simp
    omega

end Placed

/-! ### Pieces -/

lemma segmentsFrom_ne_nil {β : Type} (start : ℕ) (items : List β) (cuts : List ℕ) :
    segmentsFrom start items cuts ≠ [] := by
  cases cuts <;> simp [segmentsFrom]

/-- Where a list goes on and is cut again further behind, all of its pieces but the last one
stay. -/
lemma dropLast_segmentsFrom_prefix {β : Type} (more : List β) (later : List ℕ) {cuts : List ℕ} :
    ∀ {start : ℕ} {items : List β}, Cuts start (start + items.length) cuts →
      (segmentsFrom start items cuts).dropLast <+:
        segmentsFrom start (items ++ more) (cuts ++ later) := by
  induction cuts with
  | nil =>
    intro start items _
    simp [segmentsFrom]
  | cons cut cuts ih =>
    intro start items h
    have hstart := h.start_le cut (by simp)
    have hcut := h.succ_lt cut (by simp)
    have hlength : cut + 1 - start ≤ items.length := by omega
    have hrest : Cuts (cut + 1) (cut + 1 + (items.drop (cut + 1 - start)).length) cuts := by
      have hsum : cut + 1 + (items.drop (cut + 1 - start)).length = start + items.length := by
        rw [List.length_drop]
        omega
      rw [hsum]
      exact h.tail
    rw [segmentsFrom, List.cons_append, segmentsFrom, List.take_append_of_le_length hlength,
      List.drop_append_of_le_length hlength,
      List.dropLast_cons_of_ne_nil (segmentsFrom_ne_nil _ _ _)]
    exact (List.prefix_cons_inj _).2 (ih hrest)

lemma SplitMode.cuts_prefix (mode : SplitMode) {crossings crossings' : List ℕ}
    (h : crossings <+: crossings') : mode.cuts crossings <+: mode.cuts crossings' := by
  cases mode with
  | all => exact h
  | first => exact List.IsPrefix.take h 1

section Line

variable {points : List (MapPoint α)} (h : ∃ p ∈ points, ¬ IsTie p.lon) (more : List (MapPoint α))
include h

lemma exists_snappedPoints_append :
    ∃ later, snappedPoints (points ++ more) = snappedPoints points ++ later := by
  obtain ⟨placed, hplaced⟩ := Placed.exists_ofPoints_append h more
  exact ⟨placed.map Placed.point, by rw [snappedPoints, hplaced, List.map_append, snappedPoints]⟩

lemma exists_seamCrossings_append :
    ∃ later, seamCrossings (points ++ more) = seamCrossings points ++ later ∧
      ∀ i ∈ later, points.length ≤ i + 1 := by
  obtain ⟨placed, hplaced⟩ := Placed.exists_ofPoints_append h more
  obtain ⟨later, hlater, hbound⟩ :=
    Placed.exists_crossingsFrom_append 0 (Placed.ofPoints points) placed
  refine ⟨later, ?_, fun i hi => by simpa using hbound i hi⟩
  rw [seamCrossings, hplaced]
  exact hlater

/-- All pieces but the last one stay. -/
lemma dropLast_seamPieces_prefix :
    (seamPieces .all points).dropLast <+: seamPieces .all (points ++ more) := by
  obtain ⟨laterPoints, hpoints⟩ := exists_snappedPoints_append h more
  obtain ⟨laterCuts, hcrossings, -⟩ := exists_seamCrossings_append h more
  have hcuts : Cuts 0 (0 + (snappedPoints points).length) (seamCrossings points) := by
    rw [Nat.zero_add, length_snappedPoints]
    exact cuts_modeCuts .all points
  rw [seamPieces_eq, seamPieces_eq, hpoints]
  simp only [SplitMode.cuts, segments, hcrossings]
  exact dropLast_segmentsFrom_prefix _ _ hcuts

/-- **Later points move no cut.**  A line that has a point with a side may go on in any way.  Its
points are snapped as they are without the rest.  It is cut where it is without the rest, and then
only at steps that touch the rest; so its pieces but the last one stay as they are, and come out of
the splitting if they can be drawn.  In neither mode is a cut taken back. -/
theorem seamPieces_of_continuation :
    snappedPoints points <+: snappedPoints (points ++ more) ∧
      (∃ later, seamCrossings (points ++ more) = seamCrossings points ++ later ∧
        ∀ i ∈ later, points.length ≤ i + 1) ∧
      (seamPieces .all points).dropLast <+: seamPieces .all (points ++ more) ∧
      (seamPieces .all points).dropLast.filterMap Polyline.ofPoints? <+:
        splitAtSeam .all (points ++ more) ∧
      ∀ mode : SplitMode,
        mode.cuts (seamCrossings points) <+: mode.cuts (seamCrossings (points ++ more)) := by
  obtain ⟨laterPoints, hpoints⟩ := exists_snappedPoints_append h more
  obtain ⟨laterCuts, hcrossings, hbound⟩ := exists_seamCrossings_append h more
  have hpieces := dropLast_seamPieces_prefix h more
  refine ⟨⟨laterPoints, hpoints.symm⟩, ⟨laterCuts, hcrossings, hbound⟩, hpieces,
    hpieces.filterMap _, fun mode => mode.cuts_prefix ⟨laterCuts, hcrossings.symm⟩⟩

end Line

/-- A line sets out from the antimeridian, and only its second point tells that this is in the west.
It is cut on the way to the third point; the piece before that comes out alike when the line goes
back to the antimeridian. -/
theorem seamPieces_of_continuation_from_seam :
    let line : List (MapPoint ℝ) := [⟨180, 10⟩, ⟨-90, 20⟩, ⟨90, 30⟩]
    let more : List (MapPoint ℝ) := [⟨-180, 40⟩]
    (∃ p ∈ line, ¬ IsTie p.lon) ∧
      (seamPieces .all line).dropLast = [[⟨-180, 10⟩, ⟨-90, 20⟩]] ∧
      ∃ drawn ∈ splitAtSeam .all (line ++ more), drawn.points = [⟨-180, 10⟩, ⟨-90, 20⟩] := by
  intro line more
  obtain ⟨heast, hwest⟩ := Side.ofLongitude?_quarter_turn
  obtain ⟨-, hseam, -⟩ := Side.ofLongitude?_meridians
  have hside : ∃ p ∈ line, ¬ IsTie p.lon :=
    ⟨⟨90, 30⟩, by simp [line], Side.not_isTie_of_side heast⟩
  have hplaced : Placed.ofPoints line =
      [⟨⟨-180, 10⟩, .west, true⟩, ⟨⟨-90, 20⟩, .west, false⟩, ⟨⟨90, 30⟩, .east, false⟩] := by
    norm_num [line, Placed.ofPoints, Side.resolve, Side.ofStart, Side.inherit, Placed.ofPoint,
      Placed.snapLongitude, heast, hwest, hseam]
  have hpieces : (seamPieces .all line).dropLast = [[⟨-180, 10⟩, ⟨-90, 20⟩]] := by
    norm_num [seamPieces, hplaced, Placed.crossings, Placed.crossingsFrom, Placed.crosses,
      Side.isOpposite, SplitMode.cuts, segments, segmentsFrom]
  obtain ⟨-, -, -, hdrawn, -⟩ := seamPieces_of_continuation hside more
  rw [hpieces] at hdrawn
  exact ⟨hside, hpieces, ⟨_, by simp⟩, hdrawn.subset (by simp [Polyline.ofPoints?]), rfl⟩

end GreatCircle
