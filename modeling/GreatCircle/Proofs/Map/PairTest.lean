/-
# Steps that are told by their ends

`crossesSeam` is a test on two longitudes, and nothing else is asked.  `seamCrossings` works on a
whole line, where ties take over sides from other points and are moved.  Between two points with
sides of their own the two agree, whatever the rest of the line is
(`crossesSeam_eq_mem_seamCrossings`): such a point keeps its side and its longitude.  So along a line
without ties the crossings are the places where the test succeeds
(`seamCrossings_told_by_pairs`).

Everything here holds for every kind of numbers.
-/
import Mathlib.Data.List.Sort
import GreatCircle.Proofs.Map.ExactSide

namespace GreatCircle

open Scalar

section Pairs

variable {α : Type} [Scalar α]

/-- The longitude has a side of its own: it has a sine, and it is no tie. -/
structure HasSide (lon : α) : Prop where
  notInfinite : isInfinite lon = false
  notTie : ¬ IsTie lon

lemma crossesSeam_of_sides {a b : α} {s t : Side} (ha : isInfinite a = false)
    (hb : isInfinite b = false) (hs : Side.ofLongitude? a = some s)
    (ht : Side.ofLongitude? b = some t) :
    crossesSeam a b = .ok (s.isOpposite t && decide (180.0 ≤ magnitude (b - a))) := by
  simp [crossesSeam, ha, hb, hs, ht]

variable {points : List (MapPoint α)} {i : ℕ} {p q : MapPoint α}

/-- A point with a side of its own is placed on it, and not moved. -/
lemma Placed.getElem?_ofPoints_of_side {s : Side} (hp : points[i]? = some p)
    (hs : Side.ofLongitude? p.lon = some s) :
    (Placed.ofPoints points)[i]? = some ⟨p, s, false⟩ := by
  have hlon : (points.map MapPoint.lon)[i]? = some p.lon := by
    rw [List.getElem?_map, hp, Option.map_some]
  rw [Placed.ofPoints, List.getElem?_zipWith, hp, Side.getElem?_resolve_of_some hlon hs]
  simp [Placed.ofPoint, hs]

lemma mem_seamCrossings_iff_of_sides {s t : Side} (hp : points[i]? = some p)
    (hq : points[i + 1]? = some q) (hs : Side.ofLongitude? p.lon = some s)
    (ht : Side.ofLongitude? q.lon = some t) :
    i ∈ seamCrossings points ↔
      (s.isOpposite t && decide (180.0 ≤ magnitude (q.lon - p.lon))) = true := by
  have ha := Placed.getElem?_ofPoints_of_side hp hs
  have hb := Placed.getElem?_ofPoints_of_side hq ht
  -- no tie is touched, so only the sides are left of the second condition
  have hcrosses : Placed.crosses ⟨p, s, false⟩ ⟨q, t, false⟩ =
      (s.isOpposite t && decide (180.0 ≤ magnitude (q.lon - p.lon))) := by
    simp [Placed.crosses, Bool.and_comm]
  rw [seamCrossings, Placed.mem_crossings_iff, ha, hb, ← hcrosses]
  constructor
  · rintro ⟨a, b, ha', hb', hcross⟩
    cases ha'
    cases hb'
    exact hcross
  · intro hcross
    exact ⟨_, _, rfl, rfl, hcross⟩

/-- Between two points with sides of their own, the test on their longitudes has an answer, and tells
whether the line crosses. -/
lemma crossesSeam_eq_mem_seamCrossings (hp : points[i]? = some p) (hq : points[i + 1]? = some q)
    (hpSide : HasSide p.lon) (hqSide : HasSide q.lon) :
    crossesSeam p.lon q.lon = .ok (decide (i ∈ seamCrossings points)) := by
  obtain ⟨s, hs⟩ := Side.exists_of_not_isTie hpSide.notTie
  obtain ⟨t, ht⟩ := Side.exists_of_not_isTie hqSide.notTie
  rw [crossesSeam_of_sides hpSide.notInfinite hqSide.notInfinite hs ht]
  congr 1
  rw [Bool.eq_iff_iff, decide_eq_true_iff]
  exact (mem_seamCrossings_iff_of_sides hp hq hs ht).symm

/-- The test on two longitudes alone, put to each step of a line in order. -/
def stepTests (points : List (MapPoint α)) : List (Except (Fault α) Bool) :=
  List.zipWith (fun p q => crossesSeam p.lon q.lon) points points.tail

/-- Without ties, every test tells whether the line crosses at its step. -/
lemma stepTests_eq (h : ∀ p ∈ points, HasSide p.lon) :
    stepTests points =
      ((List.range (points.length - 1)).map fun i => decide (i ∈ seamCrossings points)).map .ok := by
  refine List.ext_getElem (by simp [stepTests]) fun i hi _ => ?_
  have hlt : i + 1 < points.length := by
    simp only [stepTests, List.length_zipWith, List.length_tail] at hi
    omega
  simp only [stepTests, List.getElem_zipWith, List.getElem_tail, List.getElem_map,
    List.getElem_range]
  exact crossesSeam_eq_mem_seamCrossings (List.getElem?_eq_getElem (by omega))
    (List.getElem?_eq_getElem hlt) (h _ (List.getElem_mem _)) (h _ (List.getElem_mem _))

/-- The crossings are the places, in order, of the steps that cross. -/
lemma seamCrossings_eq_idxsOf (points : List (MapPoint α)) :
    seamCrossings points =
      ((List.range (points.length - 1)).map fun i =>
        decide (i ∈ seamCrossings points)).idxsOf true := by
  have hcuts : Cuts 0 points.length (seamCrossings points) := cuts_modeCuts .all points
  refine List.Pairwise.eq_of_mem_iff hcuts.sorted List.pairwise_idxsOf fun i => ?_
  rw [List.mem_idxsOf_iff_exists_getElem_pos]
  simp only [List.length_map, List.length_range, List.getElem_map, List.getElem_range, beq_true,
    decide_eq_true_eq, exists_prop, iff_and_self]
  intro hi
  have := hcuts.succ_lt i hi
  omega

/-- **Crossings told by pairs.**  Where two neighbours have sides of their own, the test on their two
longitudes has an answer, and the line crosses between them exactly when the answer is yes; the
other points of the line may be anything.  So if no point of a line is a tie, every test has an
answer, and the crossings are the places of the yeses, in order. -/
theorem seamCrossings_told_by_pairs (points : List (MapPoint α)) :
    (∀ i p q, points[i]? = some p → points[i + 1]? = some q → HasSide p.lon → HasSide q.lon →
      crossesSeam p.lon q.lon = .ok (decide (i ∈ seamCrossings points))) ∧
    ((∀ p ∈ points, HasSide p.lon) →
      ∃ tests : List Bool, stepTests points = tests.map .ok ∧
        seamCrossings points = tests.idxsOf true) :=
  ⟨fun _ _ _ hp hq hpSide hqSide => crossesSeam_eq_mem_seamCrossings hp hq hpSide hqSide,
    fun h => ⟨_, stepTests_eq h, seamCrossings_eq_idxsOf points⟩⟩

end Pairs

/-- Half a turn over the antimeridian, once between ties on both meridians and once alone. -/
theorem seamCrossings_told_by_pairs_half_turn :
    let line : List (MapPoint ℝ) := [⟨180, 0⟩, ⟨90, 10⟩, ⟨-90, 20⟩, ⟨0, 30⟩]
    let step : List (MapPoint ℝ) := [⟨90, 10⟩, ⟨-90, 20⟩]
    (HasSide (90 : ℝ) ∧ HasSide (-90 : ℝ) ∧ ∀ p ∈ step, HasSide p.lon) ∧
      crossesSeam (90 : ℝ) (-90) = .ok true ∧ 1 ∈ seamCrossings line ∧
      seamCrossings step = [0] := by
  intro line step
  obtain ⟨heast, hwest⟩ := Side.ofLongitude?_quarter_turn
  have hside {lon : ℝ} {s : Side} (h : Side.ofLongitude? lon = some s) : HasSide lon := by
    refine ⟨rfl, fun htie => ?_⟩
    rw [Side.ofLongitude?_eq_none_iff.2 htie] at h
    contradiction
  have hsides : ∀ p ∈ step, HasSide p.lon := by
    intro p hp
    simp only [step, List.mem_cons, List.not_mem_nil, or_false] at hp
    rcases hp with rfl | rfl
    · exact hside heast
    · exact hside hwest
  have hcross : crossesSeam (90 : ℝ) (-90) = .ok true := by
    rw [crossesSeam_of_sides rfl rfl heast hwest]
    norm_num [Side.isOpposite, abs_of_neg]
  refine ⟨⟨hside heast, hside hwest, hsides⟩, hcross, ?_, ?_⟩
  · obtain ⟨hpair, -⟩ := seamCrossings_told_by_pairs line
    have hmem := hpair 1 ⟨90, 10⟩ ⟨-90, 20⟩ rfl rfl (hside heast) (hside hwest)
    rw [hcross] at hmem
    exact of_decide_eq_true (Except.ok.inj hmem).symm
  · obtain ⟨-, htests⟩ := seamCrossings_told_by_pairs step
    obtain ⟨tests, hmap, hcrossings⟩ := htests hsides
    obtain rfl : tests = [true] := by
      have hone : stepTests step = [true].map .ok := by simp [stepTests, step, hcross]
      rw [hone] at hmap
      exact (List.map_injective_iff.2 (fun _ _ => Except.ok.inj) hmap).symm
    rw [hcrossings]
    rfl

end GreatCircle
