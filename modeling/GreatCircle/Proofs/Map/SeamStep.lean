/-
# A line is cut at the steps of half a turn, and nowhere else

A crossing is not defined by the length of a step alone: the two points must also be on opposite
sides, or one of them a tie.  On the map this second condition never rejects a long step, since
two points on the same side are less than half a turn apart (`Placed.crosses_iff`).  So the
pieces of a line are its longest runs of short steps (`seamPieces_eq_splitBy`), and what is drawn
are the runs of two points or more: `seam_separates_long_steps`.
-/
import Mathlib.Data.List.SplitBy
import GreatCircle.Proofs.Map.Conservation
import GreatCircle.Proofs.Map.ExactSide

namespace GreatCircle

open Scalar

/-! ### Runs of related entries -/

section Runs

variable {β : Type}

/-- A first entry that is related to the second one joins its run. -/
lemma splitBy_cons_cons {r : β → β → Bool} {x y : β} (items : List β) (h : r x y = true) :
    (x :: y :: items).splitBy r = ((y :: items).splitBy r).modifyHead (x :: ·) := by
  obtain ⟨run, runs, hruns⟩ : ∃ run runs, (y :: items).splitBy r = run :: runs :=
    List.exists_cons_of_ne_nil (by simp)
  obtain ⟨hflat, hnil, hchain, hends⟩ := List.splitBy_eq_iff.1 hruns
  have hne : run ≠ [] := fun hrun => hnil (by simp [hrun])
  obtain ⟨z, run, rfl⟩ := List.exists_cons_of_ne_nil hne
  obtain rfl : y = z := by simpa using congrArg List.head? hflat
  rw [hruns, List.modifyHead_cons, List.splitBy_eq_iff]
  -- with `x` in front the first run is still a chain, and still ends where the next one begins
  refine ⟨by simp [hflat], by simpa using hnil, ?_, ?_⟩
  · intro m hm
    rcases List.mem_cons.1 hm with rfl | hm
    · exact List.isChain_cons_cons.2 ⟨h, hchain _ (by simp)⟩
    · exact hchain m (by simp [hm])
  · cases runs with
    | nil => simp
    | cons next runs =>
      obtain ⟨⟨ha, hb, hlast⟩, hrest⟩ := List.isChain_cons_cons.1 hends
      refine List.isChain_cons_cons.2 ⟨⟨by simp, hb, ?_⟩, hrest⟩
      rwa [List.getLast_cons hne]

/-- An entry before the first cut joins the first piece. -/
lemma segmentsFrom_cons {start : ℕ} {cuts : List ℕ} (h : ∀ c ∈ cuts, start + 1 ≤ c) (x : β)
    (items : List β) :
    segmentsFrom start (x :: items) cuts =
      (segmentsFrom (start + 1) items cuts).modifyHead (x :: ·) := by
  cases cuts with
  | nil => rfl
  | cons cut cuts =>
    have hcut := h cut (by simp)
    have htake : cut + 1 - start = (cut + 1 - (start + 1)) + 1 := by omega
    simp [segmentsFrom, htake]

end Runs

namespace Placed

/-- Where crossings are told by a relation between what is kept of the points, cutting at them
gives the runs of points that do not cross. -/
lemma segmentsFrom_crossingsFrom {α β : Type} [Scalar α] (f : Placed α → β) (r : β → β → Bool)
    (position : ℕ) (points : List (Placed α)) (hne : points ≠ [])
    (h : ∀ a ∈ points, ∀ b ∈ points, r (f a) (f b) = !a.crosses b) :
    segmentsFrom position (points.map f) (crossingsFrom position points) =
      (points.map f).splitBy r := by
  fun_induction crossingsFrom position points with
  | case1 position a b rest hcross ih =>
    -- a crossing: the first point is a run by itself
    have hrel : r (f a) (f b) = false := by simpa [hcross] using h a (by simp) b (by simp)
    have hrest := ih (by simp) fun a ha b hb => h a (by simp [ha]) b (by simp [hb])
    have hsplit := List.splitBy_append_cons (r := r) (l := [f a]) (a := f b) (rest.map f)
      (by simpa using hrel)
    have hone : position + 1 - position = 1 := by omega
    simp only [List.map_cons] at hrest ⊢
    rw [segmentsFrom, hone, List.drop_one, List.tail_cons, hrest]
    exact hsplit.symm
  | case2 position a b rest hcross ih =>
    -- no crossing: the first point joins the run of the second
    have hrel : r (f a) (f b) = true := by simpa [hcross] using h a (by simp) b (by simp)
    have hrest := ih (by simp) fun a ha b hb => h a (by simp [ha]) b (by simp [hb])
    have hcuts := (cuts_crossingsFrom (position + 1) (b :: rest)).start_le
    rw [List.map_cons, segmentsFrom_cons hcuts, hrest, List.map_cons, splitBy_cons_cons _ hrel]
  | case3 points position hshort =>
    obtain rfl | ⟨a, rfl⟩ := eq_nil_or_singleton hshort
    · exact absurd rfl hne
    · rfl

end Placed

/-! ### Steps on the map -/

variable {points : List (MapPoint ℝ)}

/-- On the map a step crosses exactly when it is half a turn long or longer. -/
lemma Placed.crosses_iff (hlon : ∀ p ∈ points, -180 ≤ p.lon ∧ p.lon ≤ 180) {a b : Placed ℝ}
    (ha : a ∈ Placed.ofPoints points) (hb : b ∈ Placed.ofPoints points) :
    a.crosses b ↔ 180 ≤ |b.point.lon - a.point.lon| := by
  rw [Placed.crosses_real]
  refine ⟨And.left, fun hlong => ⟨hlong, ?_⟩⟩
  -- a long step between two points with sides of their own leads from one side to the other
  by_contra hgate
  simp only [not_or, Bool.not_eq_true] at hgate
  obtain ⟨hside, htieA, htieB⟩ := hgate
  obtain ⟨i, hi⟩ := List.mem_iff_getElem?.1 ha
  obtain ⟨j, hj⟩ := List.mem_iff_getElem?.1 hb
  obtain ⟨p, hp, hpa, hownA⟩ := Placed.eq_of_isTie_eq_false hi htieA
  obtain ⟨q, hq, hqb, hownB⟩ := Placed.eq_of_isTie_eq_false hj htieB
  have hpLon := hlon p (List.mem_of_getElem? hp)
  have hqLon := hlon q (List.mem_of_getElem? hq)
  rw [hpa, hqb] at hlong
  have hshort : |q.lon - p.lon| < 180 := by
    rcases Side.lon_of_ofLongitude? hpLon hownA with ⟨hsA, hlonA⟩ | ⟨hsA, hlonA⟩ <;>
      rcases Side.lon_of_ofLongitude? hqLon hownB with ⟨hsB, hlonB⟩ | ⟨hsB, hlonB⟩
    · rw [abs_lt]
      constructor <;> linarith
    · simp [hsA, hsB, Side.isOpposite] at hside
    · simp [hsA, hsB, Side.isOpposite] at hside
    · rw [abs_lt]
      constructor <;> linarith
  linarith

/-- The pieces of a line are its longest runs of steps shorter than half a turn. -/
lemma seamPieces_eq_splitBy (hne : points ≠ [])
    (hlon : ∀ p ∈ points, -180 ≤ p.lon ∧ p.lon ≤ 180) :
    seamPieces .all points =
      (snappedPoints points).splitBy fun p q => decide (|q.lon - p.lon| < 180) := by
  have hplaced : Placed.ofPoints points ≠ [] := by
    rw [ne_eq, ← List.length_eq_zero_iff, Placed.length_ofPoints, List.length_eq_zero_iff]
    exact hne
  refine Placed.segmentsFrom_crossingsFrom Placed.point _ 0 _ hplaced fun a ha b hb => ?_
  have hstep := Placed.crosses_iff hlon ha hb
  by_cases hcross : a.crosses b
  · simpa [hcross] using hstep.1 hcross
  · simpa [hcross] using hstep

/-- **Long steps are separated, and no others.**  On the map a line crosses after position `i`
exactly when its snapped points `i` and `i + 1` are half a turn or more apart; the pieces between
the cuts are the longest runs of shorter steps; the emitted lines are those runs that have two
points or more, in order; and no emitted line keeps a long step. -/
theorem seam_separates_long_steps (two_le : 2 ≤ points.length)
    (hlon : ∀ p ∈ points, -180 ≤ p.lon ∧ p.lon ≤ 180) :
    (∀ i, i ∈ seamCrossings points ↔
      ∃ p q, (snappedPoints points)[i]? = some p ∧ (snappedPoints points)[i + 1]? = some q ∧
        180 ≤ |q.lon - p.lon|) ∧
    (seamPieces .all points =
      (snappedPoints points).splitBy fun p q => decide (|q.lon - p.lon| < 180)) ∧
    ((splitAtSeam .all points).map Polyline.points =
      ((snappedPoints points).splitBy fun p q => decide (|q.lon - p.lon| < 180)).filter
        fun run => decide (2 ≤ run.length)) ∧
    ∀ line ∈ splitAtSeam .all points,
      line.points.IsChain fun p q => |q.lon - p.lon| < 180 := by
  have hpieces := seamPieces_eq_splitBy (List.length_pos_iff.1 (by omega)) hlon
  have hdrawn : (splitAtSeam .all points).map Polyline.points =
      (seamPieces .all points).filter fun run => decide (2 ≤ run.length) :=
    Polyline.map_points_filterMap _
  refine ⟨fun i => ?_, hpieces, hpieces ▸ hdrawn, fun line hline => ?_⟩
  · rw [seamCrossings, Placed.mem_crossings_iff]
    simp only [snappedPoints, List.getElem?_map, Option.map_eq_some_iff]
    constructor
    · rintro ⟨a, b, ha, hb, hcross⟩
      exact ⟨a.point, b.point, ⟨a, ha, rfl⟩, ⟨b, hb, rfl⟩,
        (Placed.crosses_iff hlon (List.mem_of_getElem? ha) (List.mem_of_getElem? hb)).1 hcross⟩
    · rintro ⟨_, _, ⟨a, ha, rfl⟩, ⟨b, hb, rfl⟩, hlong⟩
      exact ⟨a, b, ha, hb,
        (Placed.crosses_iff hlon (List.mem_of_getElem? ha) (List.mem_of_getElem? hb)).2 hlong⟩
  · have hrun := List.mem_map_of_mem (f := Polyline.points) hline
    rw [hdrawn, hpieces] at hrun
    exact (List.isChain_of_mem_splitBy (List.mem_filter.1 hrun).1).imp
      fun p q h => by simpa using h

/-- From longitude 90 to -90 it is just half a turn; the antimeridian is then reached in the
west. -/
theorem seam_separates_half_turn :
    let line : List (MapPoint ℝ) := [⟨90, 10⟩, ⟨-90, 20⟩, ⟨180, 30⟩]
    2 ≤ line.length ∧ (∀ p ∈ line, -180 ≤ p.lon ∧ p.lon ≤ 180) ∧
      snappedPoints line = [⟨90, 10⟩, ⟨-90, 20⟩, ⟨-180, 30⟩] ∧
      0 ∈ seamCrossings line ∧ 1 ∉ seamCrossings line := by
  intro line
  have htwo : 2 ≤ line.length := by simp [line]
  have hlon : ∀ p ∈ line, -180 ≤ p.lon ∧ p.lon ≤ 180 := by
    intro p hp
    simp only [line, List.mem_cons, List.not_mem_nil, or_false] at hp
    rcases hp with rfl | rfl | rfl <;> norm_num
  have hsnapped : snappedPoints line = [⟨90, 10⟩, ⟨-90, 20⟩, ⟨-180, 30⟩] := by
    have hquarter : radians (90 : ℝ) = Real.pi / 2 := by
      rw [radians_real]
      ring
    have heast : Side.ofLongitude? (90 : ℝ) = some .east := by
      norm_num [Side.ofLongitude?_real, Side.seamSine_real, hquarter, Side.tieTolerance]
    have hwest : Side.ofLongitude? (-90 : ℝ) = some .west := by
      norm_num [Side.ofLongitude?_real, Side.seamSine_real, radians_neg, hquarter,
        Side.tieTolerance]
    have htie : Side.ofLongitude? (180 : ℝ) = none := by
      norm_num [Side.ofLongitude?_real, Side.seamSine_real, Side.tieTolerance]
    norm_num [line, snappedPoints, Placed.ofPoints, Side.resolve, Side.ofStart, Side.inherit,
      Placed.ofPoint, Placed.snapLongitude, heast, hwest, htie]
  obtain ⟨hcross, -, -, -⟩ := seam_separates_long_steps htwo hlon
  refine ⟨htwo, hlon, hsnapped, ?_, ?_⟩
  · rw [hcross, hsnapped]
    norm_num [abs_of_neg]
  · rw [hcross, hsnapped]
    norm_num [abs_of_neg]

end GreatCircle
