/-
# Cutting at the first crossing only

A line that is cut at its first crossing only has the same first piece as a line that is cut
everywhere, and all later pieces stay in one (`seamPieces_first`).

Which pieces can be drawn is asked afterwards, and a dropped piece might hide that others were left
joined.  It never does: with two crossings or more the joined piece is drawn, and it is longer than
each of its parts (`length_lt_length_flatten`).  So the two modes agree just on lines with one
crossing at most: `splitAtSeam_first`.

Everything here holds for every kind of numbers, undefined ones included.
-/
import GreatCircle.Proofs.Map.Conservation
import GreatCircle.Proofs.Map.Continuation

namespace GreatCircle

/-- The first of some pieces, and all later ones as one piece. -/
def joinLater {β : Type} : List (List β) → List (List β)
  | first :: second :: later => [first, (second :: later).flatten]
  | pieces => pieces

section Pieces

variable {β : Type}

lemma joinLater_of_length_le {pieces : List (List β)} (h : pieces.length ≤ 2) :
    joinLater pieces = pieces := by
  match pieces, h with
  | [], _ => rfl
  | [first], _ => rfl
  | [first, second], _ => simp [joinLater]

lemma length_segmentsFrom (start : ℕ) (items : List β) (cuts : List ℕ) :
    (segmentsFrom start items cuts).length = cuts.length + 1 := by
  induction cuts generalizing start items with
  | nil => rfl
  | cons cut cuts ih => rw [segmentsFrom, List.length_cons, ih, List.length_cons]

/-- To leave out all cuts but the first is to join all pieces but the first. -/
lemma segments_take_one (items : List β) (cuts : List ℕ) :
    segments items (cuts.take 1) = joinLater (segments items cuts) := by
  cases cuts with
  | nil => rfl
  | cons cut cuts =>
    have hrest := flatten_segmentsFrom (cut + 1) (items.drop (cut + 1)) cuts
    simp only [segments, List.take_succ_cons, List.take_zero, segmentsFrom, Nat.sub_zero]
    -- there is a piece after the first cut, whatever the other cuts are
    obtain ⟨second, later, hlater⟩ :=
      List.exists_cons_of_ne_nil (segmentsFrom_ne_nil (cut + 1) (items.drop (cut + 1)) cuts)
    rw [hlater] at hrest ⊢
    rw [joinLater, hrest]

/-- Between cuts there is always a point. -/
lemma nil_notMem_segmentsFrom {cuts : List ℕ} :
    ∀ {start : ℕ} {items : List β}, items ≠ [] → Cuts start (start + items.length) cuts →
      [] ∉ segmentsFrom start items cuts := by
  induction cuts with
  | nil =>
    intro start items hitems _
    simpa [segmentsFrom] using hitems.symm
  | cons cut cuts ih =>
    intro start items hitems h
    have hstart := h.start_le cut (by simp)
    have hcut := h.succ_lt cut (by simp)
    have hlength : (items.drop (cut + 1 - start)).length = start + items.length - (cut + 1) := by
      rw [List.length_drop]
      omega
    rw [segmentsFrom, List.mem_cons, not_or]
    constructor
    · intro hnil
      have htake := congrArg List.length hnil
      rw [List.length_nil, List.length_take] at htake
      omega
    · refine ih (List.ne_nil_of_length_pos (by omega)) ?_
      have hend : cut + 1 + (start + items.length - (cut + 1)) = start + items.length := by omega
      rw [hlength, hend]
      exact h.tail

/-- Of two pieces or more, none of them empty, each is shorter than all of them in one. -/
lemma length_lt_length_flatten {pieces : List (List β)} (hne : [] ∉ pieces)
    (two : 2 ≤ pieces.length) {piece : List β} (hpiece : piece ∈ pieces) :
    piece.length < pieces.flatten.length := by
  obtain ⟨before, after, rfl⟩ := List.append_of_mem hpiece
  -- there is another piece, before this one or after it
  have hother : before ≠ [] ∨ after ≠ [] := by
    by_contra hnone
    rw [not_or, not_not, not_not] at hnone
    obtain ⟨rfl, rfl⟩ := hnone
    simp at two
  have hpos {others : List (List β)} (hothers : others ≠ []) (hmem : [] ∉ others) :
      0 < others.flatten.length := by
    rw [List.length_pos_iff, Ne, List.flatten_eq_nil_iff]
    intro hall
    obtain ⟨other, hother⟩ := List.exists_mem_of_ne_nil others hothers
    exact hmem (hall other hother ▸ hother)
  rw [List.flatten_append, List.flatten_cons, List.length_append, List.length_append]
  rcases hother with hbefore | hafter
  · have := hpos hbefore fun hmem => hne (by simp [hmem])
    omega
  · have := hpos hafter fun hmem => hne (by simp [hmem])
    omega

/-- The pieces of two items or more. -/
def longPieces (pieces : List (List β)) : List (List β) :=
  pieces.filter fun piece => decide (2 ≤ piece.length)

lemma longPieces_cons (piece : List β) (pieces : List (List β)) :
    longPieces (piece :: pieces) = longPieces [piece] ++ longPieces pieces := by
  simp only [longPieces, ← List.filter_append, List.singleton_append]

/-- What is left of pieces tells whether they were joined before, in the lengths alone. -/
lemma map_length_longPieces_flatten_ne {pieces : List (List β)} (hne : [] ∉ pieces)
    (two : 2 ≤ pieces.length) :
    (longPieces [pieces.flatten]).map List.length ≠ (longPieces pieces).map List.length := by
  intro hlengths
  obtain ⟨piece, hpiece⟩ := List.exists_mem_of_length_pos (l := pieces) (by omega)
  have hpos : 0 < piece.length := List.length_pos_iff.2 fun hnil => hne (hnil ▸ hpiece)
  have hlt := length_lt_length_flatten hne two hpiece
  -- the joined piece is kept, so a part of it would have to be as long
  have hjoined : pieces.flatten.length ∈ (longPieces pieces).map List.length := by
    rw [← hlengths, longPieces, List.filter_cons_of_pos (by simp only [decide_eq_true_eq]; omega)]
    simp
  obtain ⟨part, hpart, hlength⟩ := List.mem_map.1 hjoined
  have := length_lt_length_flatten hne two (List.mem_of_mem_filter hpart)
  omega

/-- Joining shows among the long pieces, in their lengths alone, as soon as there is something to
join. -/
lemma map_length_longPieces_joinLater_iff {pieces : List (List β)}
    (hne : 3 ≤ pieces.length → [] ∉ pieces) :
    (longPieces (joinLater pieces)).map List.length = (longPieces pieces).map List.length ↔
      pieces.length ≤ 2 := by
  constructor
  · intro hlengths
    by_contra hlong
    match pieces, hne with
    | first :: second :: third :: later, hne =>
      have hmem : [] ∉ second :: third :: later := fun hnil => hne (by simp) (by simp [hnil])
      -- the first piece is kept or dropped on both sides
      rw [joinLater, longPieces_cons, longPieces_cons first (second :: third :: later),
        List.map_append, List.map_append, List.append_cancel_left_eq] at hlengths
      exact map_length_longPieces_flatten_ne hmem (by simp) hlengths
    | [], _ => simp at hlong
    | [first], _ => simp at hlong
    | [first, second], _ => simp at hlong
  · intro h
    rw [joinLater_of_length_le h]

end Pieces

variable {α : Type} [Scalar α]

lemma seamPieces_first (points : List (MapPoint α)) :
    seamPieces .first points = joinLater (seamPieces .all points) :=
  segments_take_one (snappedPoints points) (seamCrossings points)

lemma length_seamPieces_all (points : List (MapPoint α)) :
    (seamPieces .all points).length = (seamCrossings points).length + 1 :=
  length_segmentsFrom 0 (snappedPoints points) (seamCrossings points)

/-- A line that is cut has no empty pieces. -/
lemma nil_notMem_seamPieces_all {points : List (MapPoint α)} (h : seamCrossings points ≠ []) :
    [] ∉ seamPieces .all points := by
  have hcuts : Cuts 0 (0 + (snappedPoints points).length) (seamCrossings points) := by
    rw [Nat.zero_add, length_snappedPoints]
    exact cuts_modeCuts .all points
  refine nil_notMem_segmentsFrom (fun hnil : snappedPoints points = [] => ?_) hcuts
  obtain ⟨cut, hcut⟩ := List.exists_mem_of_ne_nil _ h
  have := hcuts.succ_lt cut hcut
  rw [hnil, List.length_nil] at this
  omega

lemma map_points_splitAtSeam (mode : SplitMode) (points : List (MapPoint α)) :
    (splitAtSeam mode points).map Polyline.points = longPieces (seamPieces mode points) :=
  Polyline.map_points_filterMap (seamPieces mode points)

/-- **One cut or all of them.**  Cut at its first crossing only, a line falls into the first of the
pieces that it has when it is cut at every crossing, and one piece of all later ones; of the two,
those of two points or more are drawn.  The same is drawn in both modes exactly when the line
crosses once at most.  Otherwise even the lengths of what is drawn are different. -/
theorem splitAtSeam_first (points : List (MapPoint α)) :
    (splitAtSeam .first points).map Polyline.points =
        (joinLater (seamPieces .all points)).filter (fun piece => decide (2 ≤ piece.length)) ∧
      (splitAtSeam .first points = splitAtSeam .all points ↔ (seamCrossings points).length ≤ 1) ∧
      ((splitAtSeam .first points).map (fun line => line.points.length) =
          (splitAtSeam .all points).map (fun line => line.points.length) ↔
        (seamCrossings points).length ≤ 1) := by
  have hfirst : (splitAtSeam .first points).map Polyline.points =
      longPieces (joinLater (seamPieces .all points)) := by
    rw [map_points_splitAtSeam, seamPieces_first]
  have hlengths (mode : SplitMode) :
      (splitAtSeam mode points).map (fun line => line.points.length) =
        ((splitAtSeam mode points).map Polyline.points).map List.length := by
    rw [List.map_map]
    rfl
  have hlengths_iff : (splitAtSeam .first points).map (fun line => line.points.length) =
      (splitAtSeam .all points).map (fun line => line.points.length) ↔
        (seamCrossings points).length ≤ 1 := by
    have hne (hthree : 3 ≤ (seamPieces .all points).length) : [] ∉ seamPieces .all points := by
      rw [length_seamPieces_all] at hthree
      exact nil_notMem_seamPieces_all (List.ne_nil_of_length_pos (by omega))
    rw [hlengths, hlengths, hfirst, map_points_splitAtSeam,
      map_length_longPieces_joinLater_iff hne, length_seamPieces_all]
    omega
  refine ⟨hfirst, ⟨fun hsame => ?_, fun hone => ?_⟩, hlengths_iff⟩
  · rw [← hlengths_iff, hsame]
  · exact splitAtSeam_eq hone .first

end GreatCircle
