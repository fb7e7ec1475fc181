/-
# Lines that stay on one side

A line may touch the antimeridian as often as it likes; as long as the points that have a side all
have the same one, its ties all get that side too, by whichever way they get it
(`StaysOn.exists_side`).  So the antimeridian is written alike everywhere on the line, and the only
crossings are the steps between the two meridians (`StaysOn.mem_seamCrossings_iff`).  Unless there is
such a step, the line stays in one piece (`seamCrossings_of_staysOn`).

This needs no more of the numbers than the laws of the seam, `ShortSteps` included.
-/
import GreatCircle.Proofs.Map.Conservation
import GreatCircle.Proofs.Map.SeamLaws

namespace GreatCircle

open Scalar

variable {α : Type} [Scalar α]

/-- A tie beside the prime meridian. -/
structure IsPrimeTie (lon : α) : Prop where
  isTie : IsTie lon
  near : magnitude lon ≤ 90.0

/-- A tie beside the antimeridian. -/
structure IsSeamTie (lon : α) : Prop where
  isTie : IsTie lon
  far : ¬ magnitude lon ≤ 90.0

/-- From one meridian to the other. -/
def BetweenMeridians (a b : α) : Prop := IsPrimeTie a ∧ IsSeamTie b ∨ IsSeamTie a ∧ IsPrimeTie b

lemma BetweenMeridians.isTie {a b : α} (h : BetweenMeridians a b) : IsTie a ∧ IsTie b := by
  rcases h with ⟨ha, hb⟩ | ⟨ha, hb⟩
  · exact ⟨ha.isTie, hb.isTie⟩
  · exact ⟨ha.isTie, hb.isTie⟩

/-- The step after position `i` leads from one meridian to the other. -/
structure IsMeridianStep (points : List (MapPoint α)) (i : ℕ) : Prop where
  exists_ends : ∃ p q, points[i]? = some p ∧ points[i + 1]? = some q ∧
    BetweenMeridians p.lon q.lon

/-- The points of a line are on the map, and those that have a side all have this one. -/
structure StaysOn (side : Side) (points : List (MapPoint α)) : Prop where
  onMap : ∀ p ∈ points, -180.0 ≤ p.lon ∧ p.lon ≤ 180.0
  own : ∀ p ∈ points, ∀ s, Side.ofLongitude? p.lon = some s → s = side

/-! ### One side for all points -/

/-- How a point is placed on a line that has one side only. -/
inductive PlacedOn (side : Side) (p : MapPoint α) : Placed α → Prop
  /-- A point with a side stays where it is. -/
  | own (low : -180.0 ≤ p.lon) (high : p.lon ≤ 180.0) (h : Side.ofLongitude? p.lon = some side) :
    PlacedOn side p ⟨p, side, false⟩
  | prime (h : IsPrimeTie p.lon) : PlacedOn side p ⟨⟨0.0, p.lat⟩, side, true⟩
  /-- The antimeridian is written as the side wants it. -/
  | seam (h : IsSeamTie p.lon) : PlacedOn side p ⟨⟨side.seamLon, p.lat⟩, side, true⟩

variable {side : Side} {points : List (MapPoint α)}

/-- Where all sides are the same, each point is placed without regard to the others. -/
lemma Placed.ofPoints_eq_map (h : ∀ s ∈ Side.resolve (points.map MapPoint.lon), s = side) :
    ofPoints points = points.map fun p => ofPoint p side := by
  refine List.ext_getElem (by simp) fun i hi _ => ?_
  simp only [ofPoints, List.getElem_zipWith, List.getElem_map]
  rw [h _ (List.getElem_mem _)]

namespace StaysOn

/-- Ties stay on any side. -/
lemma of_ties (h : StaysOn side points) (hties : ∀ p ∈ points, IsTie p.lon) (other : Side) :
    StaysOn other points :=
  ⟨h.onMap, fun p hp _ hs => absurd (hties p hp) (Side.not_isTie_of_side hs)⟩

lemma ne_undefined [SeamLaws α] (h : StaysOn side points) {p : MapPoint α} (hp : p ∈ points)
    (htie : ¬ IsTie p.lon) : side ≠ .undefined := by
  obtain ⟨s, hs⟩ := Side.exists_of_not_isTie htie
  obtain rfl := h.own p hp s hs
  rintro rfl
  exact SeamLaws.onHalf_of_side (h.onMap p hp).1 (h.onMap p hp).2 hs

lemma eq_of_mem_resolve (h : StaysOn side points) {s : Side}
    (hs : s ∈ Side.resolve (points.map MapPoint.lon)) :
    s = side ∨ (∀ p ∈ points, IsTie p.lon) ∧ s = Side.ofTies (points.map MapPoint.lon) := by
  rcases Side.mem_resolve hs with ⟨_, hmem, hown⟩ | ⟨hties, heq⟩
  · obtain ⟨p, hp, rfl⟩ := List.mem_map.1 hmem
    exact Or.inl (h.own p hp s hown)
  · exact Or.inr ⟨fun p hp => hties p.lon (List.mem_map_of_mem hp), heq⟩

/-- **One side for all.**  The ties of a line get the side of the points that have one; if no point
has one, they all get the same side. -/
lemma exists_side [SeamLaws α] (h : StaysOn side points) :
    ∃ common : Side, common ≠ .undefined ∧ StaysOn common points ∧
      (Placed.ofPoints points = points.map fun p => Placed.ofPoint p common) ∧
      ((∃ p ∈ points, ¬ IsTie p.lon) → common = side) := by
  by_cases hside : ∃ p ∈ points, ¬ IsTie p.lon
  · obtain ⟨p, hp, htie⟩ := hside
    refine ⟨side, h.ne_undefined hp htie, h, Placed.ofPoints_eq_map fun s hs => ?_, fun _ => rfl⟩
    exact (h.eq_of_mem_resolve hs).resolve_right fun hties => htie (hties.1 p hp)
  · -- there are ties only, and they decide by themselves
    push Not at hside
    have hties := h.of_ties hside (Side.ofTies (points.map MapPoint.lon))
    refine ⟨_, ?_, hties, Placed.ofPoints_eq_map fun s hs => ?_, ?_⟩
    · rcases Side.ofTies_mem (points.map MapPoint.lon) with heq | heq <;> simp [heq]
    · exact (hties.eq_of_mem_resolve hs).elim id And.right
    · rintro ⟨p, hp, htie⟩
      exact absurd (hside p hp) htie

/-- On a line with one side every point is placed on that side. -/
lemma placedOn (h : StaysOn side points) {p : MapPoint α} (hp : p ∈ points) :
    PlacedOn side p (Placed.ofPoint p side) := by
  cases hown : Side.ofLongitude? p.lon with
  | some s =>
    obtain rfl := h.own p hp s hown
    have hplaced : Placed.ofPoint p s = ⟨p, s, false⟩ := by simp [Placed.ofPoint, hown]
    rw [hplaced]
    exact .own (h.onMap p hp).1 (h.onMap p hp).2 hown
  | none =>
    have htie := Side.ofLongitude?_eq_none_iff.1 hown
    have hplaced : Placed.ofPoint p side =
        ⟨⟨Placed.snapLongitude side p.lon, p.lat⟩, side, true⟩ := by
      simp [Placed.ofPoint, hown]
    rw [hplaced, Placed.snapLongitude_eq]
    split
    · rename_i hnear
      exact .prime ⟨htie, hnear⟩
    · rename_i hfar
      exact .seam ⟨htie, hfar⟩

end StaysOn

/-- A point on the antimeridian stays on it, and is written as the side wants it. -/
lemma PlacedOn.point_of_isSeamTie {p : MapPoint α} {a : Placed α} (h : PlacedOn side p a)
    (hseam : IsSeamTie p.lon) : a.point = ⟨side.seamLon, p.lat⟩ := by
  cases h with
  | own _ _ hown => exact absurd hseam.isTie (Side.not_isTie_of_side hown)
  | prime hprime => exact absurd hprime.near hseam.far
  | seam => rfl

/-! ### Steps on one side -/

lemma Placed.not_crosses_of_short {a b : Placed α}
    (h : ¬ 180.0 ≤ magnitude (b.point.lon - a.point.lon)) : ¬ a.crosses b = true := by
  rw [crosses, decide_eq_false h, Bool.false_and]
  exact Bool.false_ne_true

lemma Placed.crosses_of_long {a b : Placed α}
    (h : 180.0 ≤ magnitude (b.point.lon - a.point.lon)) (htie : a.isTie = true) :
    a.crosses b = true := by
  rw [crosses, decide_eq_true h, htie, Bool.or_true, Bool.true_or, Bool.and_true]

section Steps

variable [ShortSteps α]

/-- On one side the steps that cross are those between the meridians. -/
lemma PlacedOn.crosses_iff (hdefined : side ≠ .undefined) {p q : MapPoint α} {a b : Placed α}
    (ha : PlacedOn side p a) (hb : PlacedOn side q b) :
    a.crosses b = true ↔ BetweenMeridians p.lon q.lon := by
  have hprime : side.IsEdge (0.0 : α) := Or.inl rfl
  have hseam : side.IsEdge (side.seamLon : α) := Or.inr rfl
  obtain ⟨hlong, hlong'⟩ := SeamLaws.long_across (α := α) hdefined
  cases ha with
  | own low high hown =>
    refine iff_of_false ?_ fun hstep => Side.not_isTie_of_side hown hstep.isTie.1
    cases hb with
    | own => simp [Placed.crosses]
    | prime => exact Placed.not_crosses_of_short (ShortSteps.short_edge low high hown hprime).2
    | seam => exact Placed.not_crosses_of_short (ShortSteps.short_edge low high hown hseam).2
  | prime hp =>
    cases hb with
    | own low high hown =>
      refine iff_of_false ?_ fun hstep => Side.not_isTie_of_side hown hstep.isTie.2
      exact Placed.not_crosses_of_short (ShortSteps.short_edge low high hown hprime).1
    | prime hq =>
      refine iff_of_false (Placed.not_crosses_of_short (ShortSteps.short_stay hprime)) ?_
      rintro (⟨-, hfar⟩ | ⟨hfar, -⟩)
      · exact hfar.far hq.near
      · exact hfar.far hp.near
    | seam hq => exact iff_of_true (Placed.crosses_of_long hlong' rfl) (Or.inl ⟨hp, hq⟩)
  | seam hp =>
    cases hb with
    | own low high hown =>
      refine iff_of_false ?_ fun hstep => Side.not_isTie_of_side hown hstep.isTie.2
      exact Placed.not_crosses_of_short (ShortSteps.short_edge low high hown hseam).1
    | prime hq => exact iff_of_true (Placed.crosses_of_long hlong rfl) (Or.inr ⟨hp, hq⟩)
    | seam hq =>
      refine iff_of_false (Placed.not_crosses_of_short (ShortSteps.short_stay hseam)) ?_
      rintro (⟨hnear, -⟩ | ⟨-, hnear⟩)
      · exact hp.far hnear.near
      · exact hq.far hnear.near

/-- A line with one side crosses where it passes from one meridian to the other. -/
lemma StaysOn.mem_seamCrossings_iff (h : StaysOn side points) {i : ℕ} :
    i ∈ seamCrossings points ↔ IsMeridianStep points i := by
  obtain ⟨common, hdefined, hstays, hplaced, -⟩ := h.exists_side
  have hcrosses {p q : MapPoint α} (hp : p ∈ points) (hq : q ∈ points) :
      (Placed.ofPoint p common).crosses (Placed.ofPoint q common) = true ↔
        BetweenMeridians p.lon q.lon :=
    (hstays.placedOn hp).crosses_iff hdefined (hstays.placedOn hq)
  rw [seamCrossings, Placed.mem_crossings_iff, hplaced]
  simp only [List.getElem?_map, Option.map_eq_some_iff]
  constructor
  · rintro ⟨_, _, ⟨p, hp, rfl⟩, ⟨q, hq, rfl⟩, hcross⟩
    exact ⟨p, q, hp, hq, (hcrosses (List.mem_of_getElem? hp) (List.mem_of_getElem? hq)).1 hcross⟩
  · rintro ⟨p, q, hp, hq, hstep⟩
    exact ⟨_, _, ⟨p, hp, rfl⟩, ⟨q, hq, rfl⟩,
      (hcrosses (List.mem_of_getElem? hp) (List.mem_of_getElem? hq)).2 hstep⟩

/-- What is drawn at the antimeridian is drawn there as the side wants it. -/
lemma PlacedOn.lon_of_isSeamTie {p : MapPoint α} {a : Placed α} (h : PlacedOn side p a)
    (hseam : IsSeamTie a.point.lon) : a.point.lon = side.seamLon := by
  cases h with
  | own _ _ hown => exact absurd hseam.isTie (Side.not_isTie_of_side hown)
  | prime => exact absurd SeamLaws.zero_near hseam.far
  | seam => rfl

/-- **On one side.**  Let the points of a line be on the map, and let those that have a side all have
the same one; there may be any ties among them.  Then the line crosses at the steps from one meridian
to the other, and nowhere else.  Wherever it is on the antimeridian it is drawn there with one and the
same longitude, that of the side if some point has it.  If no step leads from one meridian to the
other, the line stays in one piece.  This is so over all numbers that obey the laws of the seam, exact
real numbers among them. -/
theorem seamCrossings_of_staysOn (two_le : 2 ≤ points.length) (h : StaysOn side points) :
    ((seamCrossings points).Pairwise (· < ·) ∧
        ∀ i, i ∈ seamCrossings points ↔ IsMeridianStep points i) ∧
      (∃ common : Side, (common = .west ∨ common = .east) ∧
        ((∃ p ∈ points, ¬ IsTie p.lon) → common = side) ∧
        (∀ (i : ℕ) (p : MapPoint α), points[i]? = some p → IsSeamTie p.lon →
          (snappedPoints points)[i]? = some ⟨common.seamLon, p.lat⟩) ∧
        ∀ mode, ∀ line ∈ splitAtSeam mode points, ∀ q ∈ line.points,
          IsSeamTie q.lon → q.lon = common.seamLon) ∧
      ((∀ i, ¬ IsMeridianStep points i) →
        ∀ mode, (splitAtSeam mode points).map Polyline.points = [snappedPoints points]) := by
  have hcrossings : (seamCrossings points).Pairwise (· < ·) := (cuts_modeCuts .all points).sorted
  refine ⟨⟨hcrossings, fun i => h.mem_seamCrossings_iff⟩, ?_, fun hno mode => ?_⟩
  · obtain ⟨common, hdefined, hstays, hplaced, hcommon⟩ := h.exists_side
    have hsnapped : snappedPoints points =
        points.map fun p => (Placed.ofPoint p common).point := by
      rw [snappedPoints, hplaced, List.map_map]
      rfl
    refine ⟨common, ?_, hcommon, fun i p hp hseam => ?_, fun mode line hline q hq hseam => ?_⟩
    · cases common with
      | west => exact Or.inl rfl
      | east => exact Or.inr rfl
      | undefined => contradiction
    · rw [hsnapped, List.getElem?_map, hp, Option.map_some,
        (hstays.placedOn (List.mem_of_getElem? hp)).point_of_isSeamTie hseam]
    · have hmem := mem_snappedPoints_of_mem_splitAtSeam hline hq
      rw [hsnapped] at hmem
      obtain ⟨p, hp, rfl⟩ := List.mem_map.1 hmem
      exact (hstays.placedOn hp).lon_of_isSeamTie hseam
  · refine points_splitAtSeam_of_uncrossed two_le ?_ mode
    exact List.eq_nil_iff_forall_not_mem.2 fun i hi => hno i (h.mem_seamCrossings_iff.1 hi)

end Steps

/-- A line in the east that touches the antimeridian twice, written -180 and 180, and then goes on to
the prime meridian over the pole. -/
theorem seamCrossings_of_staysOn_east :
    let line : List (MapPoint ℝ) := [⟨90, 70⟩, ⟨-180, 75⟩, ⟨90, 80⟩, ⟨180, 85⟩, ⟨0, 85⟩]
    (2 ≤ line.length ∧ StaysOn .east line) ∧ 3 ∈ seamCrossings line ∧ 0 ∉ seamCrossings line ∧
      (snappedPoints line)[1]? = some ⟨180, 75⟩ := by
  intro line
  have heast := Side.ofLongitude?_quarter_turn.1
  obtain ⟨hzero, hseam, hseam'⟩ := Side.ofLongitude?_meridians
  have hlons : ∀ p ∈ line, p.lon = 90 ∨ p.lon = 0 ∨ p.lon = 180 ∨ p.lon = -180 := by
    simp [line]
  have hstays : StaysOn .east line := by
    refine ⟨fun p hp => ?_, fun p hp s hs => ?_⟩
    · rcases hlons p hp with hlon | hlon | hlon | hlon <;> norm_num [hlon]
    · rcases hlons p hp with hlon | hlon | hlon | hlon <;> rw [hlon] at hs
      · rw [heast] at hs
        exact (Option.some.inj hs).symm
      · simp [hzero] at hs
      · simp [hseam] at hs
      · simp [hseam'] at hs
  have hprimeTie : IsPrimeTie (0 : ℝ) := ⟨Side.ofLongitude?_eq_none_iff.1 hzero, by norm_num⟩
  have hseamTie : IsSeamTie (180 : ℝ) ∧ IsSeamTie (-180 : ℝ) :=
    ⟨⟨Side.ofLongitude?_eq_none_iff.1 hseam, by norm_num⟩,
      Side.ofLongitude?_eq_none_iff.1 hseam', by norm_num⟩
  have htwo : 2 ≤ line.length := by simp [line]
  obtain ⟨⟨-, hcrossings⟩, ⟨common, -, hcommon, hsnapped, -⟩, -⟩ :=
    seamCrossings_of_staysOn htwo hstays
  refine ⟨⟨htwo, hstays⟩, ?_, ?_, ?_⟩
  · rw [hcrossings]
    exact ⟨_, _, rfl, rfl, Or.inr ⟨hseamTie.1, hprimeTie⟩⟩
  · rw [hcrossings]
    rintro ⟨p, q, hp, hq, hstep⟩
    obtain rfl : p = ⟨90, 70⟩ := (Option.some.inj hp).symm
    exact Side.not_isTie_of_side heast hstep.isTie.1
  · have hside : ∃ p ∈ line, ¬ IsTie p.lon :=
      ⟨⟨90, 70⟩, by simp [line], Side.not_isTie_of_side heast⟩
    rw [hsnapped 1 ⟨-180, 75⟩ rfl hseamTie.2, hcommon hside]
    norm_num [Side.seamLon]

end GreatCircle
