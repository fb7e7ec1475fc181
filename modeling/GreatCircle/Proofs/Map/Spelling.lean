/-
# How ties are written

The antimeridian may be written 180 or -180, and a point within rounding of a meridian may be written
in many ways.  The tie rule asks of such a longitude only whether it is within a quarter turn of the
prime meridian; everything else is computed from the longitudes that the rule gives.  So two lines
that differ in the writing of ties only (`SpelledAlike`) are placed alike, and cut alike
(`splitAtSeam_of_spelledAlike`).

One writing does count: where there are ties only, the sign of the first longitude beyond a quarter
turn is the side of the whole line (`firstFarSign?`).

Everything here holds for every kind of numbers, undefined ones included.
-/
import Mathlib.Analysis.SpecialFunctions.Trigonometric.Bounds
import GreatCircle.Proofs.Map.NearestMeridian

namespace GreatCircle

open Scalar

variable {α : Type} [Scalar α]

/-- Two points that the tie rule does not tell apart.  They are the same point, or both are ties,
equally far north, and both within a quarter turn of the prime meridian or both beyond. -/
structure SpelledAlike (p q : MapPoint α) : Prop where
  lat_eq : p.lat = q.lat
  isTie_iff : IsTie p.lon ↔ IsTie q.lon
  lon_eq : ¬ IsTie p.lon → p.lon = q.lon
  near_iff : IsTie p.lon → (magnitude p.lon ≤ 90.0 ↔ magnitude q.lon ≤ 90.0)

/-- Whether the first longitude of a line that is beyond 90 degrees is negative; none if there is no
such longitude. -/
def firstFarSign? (points : List (MapPoint α)) : Option Bool :=
  (points.find? fun p => decide (90.0 < magnitude p.lon)).map fun p => decide (p.lon < 0.0)

namespace SpelledAlike

variable {p q : MapPoint α}

lemma ofLongitude?_eq (h : SpelledAlike p q) :
    Side.ofLongitude? p.lon = Side.ofLongitude? q.lon := by
  by_cases htie : IsTie p.lon
  · rw [Side.ofLongitude?_eq_none_iff.2 htie, Side.ofLongitude?_eq_none_iff.2 (h.isTie_iff.1 htie)]
  · rw [h.lon_eq htie]

lemma ofPoint_eq (h : SpelledAlike p q) (side : Side) :
    Placed.ofPoint p side = Placed.ofPoint q side := by
  by_cases htie : IsTie p.lon
  · have hsnap : Placed.snapLongitude side p.lon = Placed.snapLongitude side q.lon := by
      rw [Placed.snapLongitude_eq, Placed.snapLongitude_eq]
      exact if_congr (h.near_iff htie) rfl rfl
    have hp := Side.ofLongitude?_eq_none_iff.2 htie
    have hq := Side.ofLongitude?_eq_none_iff.2 (h.isTie_iff.1 htie)
    simp only [Placed.ofPoint, hp, hq, hsnap, h.lat_eq]
  · have hpoint : p = q := by
      cases p
      cases q
      congr
      · exact h.lon_eq htie
      · exact h.lat_eq
    rw [hpoint]

end SpelledAlike

/-- The side of a line of ties is told by its first longitude beyond 90 degrees. -/
lemma Side.ofTies_eq (points : List (MapPoint α)) :
    ofTies (points.map MapPoint.lon) =
      if firstFarSign? points = some true then west else east := by
  have hfind : (points.map MapPoint.lon).find? (fun lon => decide (90.0 < magnitude lon)) =
      (points.find? fun p => decide (90.0 < magnitude p.lon)).map MapPoint.lon := List.find?_map
  rw [ofTies, hfind, firstFarSign?]
  cases points.find? fun p => decide (90.0 < magnitude p.lon) with
  | none => rfl
  | some p => simp

section Lines

variable {points points' : List (MapPoint α)} (h : List.Forall₂ SpelledAlike points points')
include h

lemma map_ofLongitude?_eq_of_spelledAlike :
    (points.map MapPoint.lon).map Side.ofLongitude? =
      (points'.map MapPoint.lon).map Side.ofLongitude? := by
  induction h with
  | nil => rfl
  | cons hpoint _ ih => simp only [List.map_cons, hpoint.ofLongitude?_eq, ih]

lemma zipWith_ofPoint_eq_of_spelledAlike (sides : List Side) :
    List.zipWith Placed.ofPoint points sides = List.zipWith Placed.ofPoint points' sides := by
  induction h generalizing sides with
  | nil => rfl
  | cons hpoint _ ih =>
    cases sides with
    | nil => rfl
    | cons side sides => simp only [List.zipWith_cons_cons, hpoint.ofPoint_eq, ih]

variable (hstart : (∃ p ∈ points, ¬ IsTie p.lon) ∨ firstFarSign? points = firstFarSign? points')
include hstart

/-- Lines that are spelled alike set out from the same side. -/
lemma ofStart_eq_of_spelledAlike :
    Side.ofStart (points.map MapPoint.lon) = Side.ofStart (points'.map MapPoint.lon) := by
  have hfirst : (points.map MapPoint.lon).findSome? Side.ofLongitude? =
      (points'.map MapPoint.lon).findSome? Side.ofLongitude? := by
    have hown (line : List (MapPoint α)) : (line.map MapPoint.lon).findSome? Side.ofLongitude? =
        ((line.map MapPoint.lon).map Side.ofLongitude?).findSome? id := by
      simp only [List.findSome?_map, Function.id_comp]
    rw [hown, hown, map_ofLongitude?_eq_of_spelledAlike h]
  rcases hstart with ⟨p, hp, htie⟩ | hsign
  · -- the first side decides, and ties have none
    obtain ⟨side, hside, -⟩ :=
      Side.exists_ofStart_eq ⟨p.lon, List.mem_map_of_mem hp, htie⟩
    rw [Side.ofStart, Side.ofStart, ← hfirst, hside, Option.getD_some, Option.getD_some]
  · rw [Side.ofStart, Side.ofStart, hfirst, Side.ofTies_eq, Side.ofTies_eq, hsign]

/-- Lines that are spelled alike are placed alike. -/
lemma ofPoints_eq_of_spelledAlike : Placed.ofPoints points = Placed.ofPoints points' := by
  rw [Placed.ofPoints, Placed.ofPoints, Side.resolve, Side.resolve,
    ofStart_eq_of_spelledAlike h hstart, map_ofLongitude?_eq_of_spelledAlike h,
    zipWith_ofPoint_eq_of_spelledAlike h]

/-- **Spelling does not matter.**  Two lines that differ in the writing of their ties only, and of
which some point has a side, or the first longitudes beyond 90 degrees have the same sign, cross at
the same positions and are cut into the same lines, in either mode. -/
theorem splitAtSeam_of_spelledAlike :
    seamCrossings points = seamCrossings points' ∧
      ∀ mode, splitAtSeam mode points = splitAtSeam mode points' := by
  have hplaced := ofPoints_eq_of_spelledAlike h hstart
  refine ⟨by rw [seamCrossings, seamCrossings, hplaced], fun mode => ?_⟩
  rw [splitAtSeam, splitAtSeam, seamPieces, seamPieces, hplaced]

end Lines

/-- The antimeridian, missed by a rounding error. -/
lemma isTie_rounded_seam : IsTie (-180 + 1 / 2 ^ 42 : ℝ) := by
  have hangle : 0 < radians (1 / 2 ^ 42 : ℝ) ∧ radians (1 / 2 ^ 42 : ℝ) < 1 / 10 ^ 12 := by
    rw [radians_real]
    constructor
    · positivity
    · have := Real.pi_le_four
      norm_num
      linarith
  have hsmall : IsTie (1 / 2 ^ 42 : ℝ) := by
    have hpos := Real.sin_pos_of_pos_of_lt_pi hangle.1 (by linarith [Real.two_le_pi])
    have hlt := Real.sin_lt hangle.1
    rw [isTie_iff, abs_of_pos hpos]
    norm_num [Side.tieTolerance] at hangle hlt ⊢
    linarith
  have hturn := (isTie_add_half_turns (-1)).2 hsmall
  push_cast at hturn
  rwa [mul_neg_one, add_comm] at hturn

/-- A quarter turn from the antimeridian and back, with the antimeridian once written 180 and once
missed by a rounding error on its other side. -/
theorem splitAtSeam_of_spelledAlike_rounded :
    let points : List (MapPoint ℝ) := [⟨90, 10⟩, ⟨180, 11⟩, ⟨90, 12⟩]
    let points' : List (MapPoint ℝ) := [⟨90, 10⟩, ⟨-180 + 1 / 2 ^ 42, 11⟩, ⟨90, 12⟩]
    List.Forall₂ SpelledAlike points points' ∧ (∃ p ∈ points, ¬ IsTie p.lon) ∧
      seamCrossings points = seamCrossings points' ∧
        ∀ mode, splitAtSeam mode points = splitAtSeam mode points' := by
  intro points points'
  have hseam : IsTie (180 : ℝ) := Side.ofLongitude?_eq_none_iff.1 Side.ofLongitude?_meridians.2.1
  have hsame (p : MapPoint ℝ) : SpelledAlike p p := ⟨rfl, Iff.rfl, fun _ => rfl, fun _ => Iff.rfl⟩
  have hspelled : List.Forall₂ SpelledAlike points points' := by
    refine .cons (hsame _) (.cons ?_ (.cons (hsame _) .nil))
    refine ⟨rfl, iff_of_true hseam isTie_rounded_seam, absurd hseam, fun _ => ?_⟩
    norm_num [abs_of_neg]
  have hside : ∃ p ∈ points, ¬ IsTie p.lon :=
    ⟨⟨90, 10⟩, by simp [points], Side.not_isTie_of_side Side.ofLongitude?_quarter_turn.1⟩
  exact ⟨hspelled, hside, splitAtSeam_of_spelledAlike hspelled (Or.inl hside)⟩

end GreatCircle
