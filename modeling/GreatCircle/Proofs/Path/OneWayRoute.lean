/-
# Routes off the poles go one way round

A route is an arc of at most half a turn.  If no sampled point counts as a pole, its longitudes
unwind to numbers that run one way and over half a turn at most (`GeoPoint.exists_unwinds`).  So the
route crosses the antimeridian once at most, and cutting it at the first crossing is as good as
cutting it at every one (`between_crosses_once`); and its pieces all run to the east or all to the
west (`between_runs_one_way`).
-/
import GreatCircle.Proofs.Path.Drawable
import GreatCircle.Proofs.Sphere.TurnedLongitude

namespace GreatCircle

open Scalar

/-! ### The longitudes along an arc, unwound -/

section Arc

variable {a e : Vec3 ℝ} {θ : ℝ} {n : StepCount}

/-- How far the longitude has turned at the `i`-th point of an arc. -/
noncomputable def turnedAt (a e : Vec3 ℝ) (θ : ℝ) (n : StepCount) (i : ℕ) : ℝ :=
  a.turned (a.travel e (n.fraction i * θ))

/-- The longitudes of the points of an arc. -/
noncomputable def lonsAlong (a e : Vec3 ℝ) (θ : ℝ) (n : StepCount) : List ℝ :=
  (evenPoints a e θ n).map fun v => v.place.lon

lemma getElem?_lonsAlong {i : ℕ} {lon : ℝ} (h : (lonsAlong a e θ n)[i]? = some lon) :
    i ≤ n.val ∧ a.travel e (n.fraction i * θ) ∈ evenPoints a e θ n ∧
      lon = (a.travel e (n.fraction i * θ)).place.lon := by
  rw [lonsAlong, List.getElem?_map, Option.map_eq_some_iff] at h
  obtain ⟨v, hv, rfl⟩ := h
  obtain ⟨hi, rfl⟩ := getElem?_evenPoints hv
  exact ⟨hi, List.mem_of_getElem? hv, rfl⟩

lemma fraction_mul_mem (hθ : 0 ≤ θ) (hθπ : θ ≤ Real.pi) {i : ℕ} (hi : i ≤ n.val) :
    0 ≤ n.fraction i * θ ∧ n.fraction i * θ ≤ Real.pi := by
  obtain ⟨hlow, hhigh⟩ := n.fraction_mem hi
  exact ⟨mul_nonneg hlow hθ, (mul_le_of_le_one_left hθ hhigh).trans hθπ⟩

lemma travel_mem_evenPoints {i : ℕ} (hi : i ≤ n.val) :
    a.travel e (n.fraction i * θ) ∈ evenPoints a e θ n :=
  List.mem_map_of_mem (List.mem_range.2 (Nat.lt_succ_of_le hi))

section OffPoles

variable (hoff : ∀ v ∈ evenPoints a e θ n, Vec3.poleTolerance ≤ v.horizontal)
include hoff

lemma start_off_pole : Vec3.poleTolerance ≤ a.horizontal := by
  have hstart := hoff _ (travel_mem_evenPoints (Nat.zero_le n.val))
  rwa [n.fraction_real, Nat.cast_zero, zero_div, zero_mul, Vec3.travel_zero] at hstart

/-- The longitudes along an arc unwind to that of the start and what they have turned, to the east
(`σ = 1`) or to the west (`σ = -1`). -/
lemma unwinds_lonsAlong {σ : ℝ} (hσ : |σ| = 1)
    (hturns : ∀ i ≤ n.val, ∃ k : ℤ, (a.travel e (n.fraction i * θ)).place.lon =
      a.place.lon + σ * turnedAt a e θ n i + 360 * k) :
    Unwinds (lonsAlong a e θ n) fun i => a.place.lon + σ * turnedAt a e θ n i := by
  refine ⟨?_, ?_, ?_, ?_⟩
  · intro lon hlon
    obtain ⟨v, -, rfl⟩ := List.mem_map.1 hlon
    exact v.place.abs_lon_le
  · intro i lon hlon
    obtain ⟨hi, -, rfl⟩ := getElem?_lonsAlong hlon
    exact hturns i hi
  · intro i j lon lon' hlon hlon' heq
    obtain ⟨hi, hv, rfl⟩ := getElem?_lonsAlong hlon
    obtain ⟨hj, hw, rfl⟩ := getElem?_lonsAlong hlon'
    obtain ⟨k, hk⟩ := hturns i hi
    obtain ⟨l, hl⟩ := hturns j hj
    have hlow := (Vec3.polar_lon_place (hoff _ hv)).1
    have hlow' := (Vec3.polar_lon_place (hoff _ hw)).1
    have hhigh := (abs_le.1 (a.travel e (n.fraction i * θ)).place.abs_lon_le).2
    have hhigh' := (abs_le.1 (a.travel e (n.fraction j * θ)).place.abs_lon_le).2
    -- -180 is not among the longitudes, so there is no room for a whole turn between two of them
    have hturn₁ : (-1 : ℤ) < k - l := by
      have : (-1 : ℝ) < k - l := by linarith
      exact_mod_cast this
    have hturn₂ : k - l < (1 : ℤ) := by
      have : (k - l : ℝ) < 1 := by linarith
      exact_mod_cast this
    obtain rfl : k = l := by omega
    rw [hk, hl, heq]
  · intro i j _ _
    obtain ⟨hlow, hhigh⟩ := a.turned_mem (a.travel e (n.fraction i * θ))
    obtain ⟨hlow', hhigh'⟩ := a.turned_mem (a.travel e (n.fraction j * θ))
    rw [add_sub_add_left_eq_sub, ← mul_sub, abs_mul, hσ, one_mul, abs_le]
    unfold turnedAt
    constructor <;> linarith

variable (hθ : 0 ≤ θ) (hθπ : θ ≤ Real.pi)
include hθ hθπ

lemma monotoneOn_turnedAt : MonotoneOn (turnedAt a e θ n) (Set.Iio (n.val + 1)) := by
  intro i hi j hj hij
  have hi' : i ≤ n.val := Nat.lt_succ_iff.1 hi
  have hj' : j ≤ n.val := Nat.lt_succ_iff.1 hj
  have hle : (n.fraction i : ℝ) ≤ n.fraction j := by
    rw [n.fraction_real, n.fraction_real]
    have := n.cast_pos
    gcongr
  exact Vec3.turned_le_turned (start_off_pole hoff) (fraction_mul_mem hθ hθπ hi').1
    (mul_le_mul_of_nonneg_right hle hθ) (fraction_mul_mem hθ hθπ hj').2
    (hoff _ (travel_mem_evenPoints hi')) (hoff _ (travel_mem_evenPoints hj'))

/-- **Arcs off the poles go one way round.**  The longitudes along the arc unwind to numbers that
run to the east or to the west. -/
theorem exists_unwinds_lonsAlong :
    ∃ u, Unwinds (lonsAlong a e θ n) u ∧
      (MonotoneOn u (Set.Iio (n.val + 1)) ∨ AntitoneOn u (Set.Iio (n.val + 1))) := by
  have hmono := monotoneOn_turnedAt hoff hθ hθπ
  have ha := start_off_pole hoff
  -- the side on which all points lie is told by the heading
  have hside (i : ℕ) (hi : i ≤ n.val) :
      0 ≤ Real.sin (n.fraction i * θ) ∧ (a.cross (a.travel e (n.fraction i * θ))).y =
        Real.sin (n.fraction i * θ) * (a.cross e).y := by
    obtain ⟨hlow, hhigh⟩ := fraction_mul_mem hθ hθπ hi
    refine ⟨Real.sin_nonneg_of_nonneg_of_le_pi hlow hhigh, ?_⟩
    have hcross := Vec3.cross_travel_travel a e 0 (n.fraction i * θ)
    rw [Vec3.travel_zero, sub_zero] at hcross
    rw [hcross, Vec3.smul_y]
  rcases le_total 0 (a.cross e).y with heast | hwest
  · refine ⟨_, unwinds_lonsAlong hoff (σ := 1) (by norm_num) fun i hi => ?_, Or.inl ?_⟩
    · obtain ⟨hsin, hy⟩ := hside i hi
      rw [one_mul]
      exact Vec3.exists_lon_eq_add ha (hoff _ (travel_mem_evenPoints hi))
        (hy ▸ mul_nonneg hsin heast)
    · intro i hi j hj hij
      have := hmono hi hj hij
      dsimp only
      linarith
  · refine ⟨_, unwinds_lonsAlong hoff (σ := -1) (by norm_num) fun i hi => ?_, Or.inr ?_⟩
    · obtain ⟨hsin, hy⟩ := hside i hi
      rw [neg_one_mul, ← sub_eq_add_neg]
      exact Vec3.exists_lon_eq_sub ha (hoff _ (travel_mem_evenPoints hi))
        (hy ▸ mul_nonpos_of_nonneg_of_nonpos hsin hwest)
    · intro i hi j hj hij
      have := hmono hi hj hij
      dsimp only
      linarith

end OffPoles

end Arc

/-! ### Routes -/

/-- The longitudes of a route off the poles unwind to numbers that run one way. -/
lemma GeoPoint.exists_unwinds {start finish : GeoPoint ℝ} {n : StepCount}
    (hoff : start.AvoidsPoles finish n) :
    ∃ points u, start.pathTo finish n = .ok points ∧ points ≠ [] ∧
      Unwinds (points.map MapPoint.lon) u ∧
      (MonotoneOn u (Set.Iio points.length) ∨ AntitoneOn u (Set.Iio points.length)) := by
  obtain ⟨e, θ, -, hθ, hθπ, hvectors⟩ :=
    exists_sampleTo_eq_evenPoints start.onSphere_toVec3 finish.onSphere_toVec3 n
  obtain ⟨u, hu, hway⟩ := exists_unwinds_lonsAlong (a := start.toVec3) (e := e) (θ := θ) (n := n)
    (fun v hv => not_lt.1 (hoff _ hvectors v hv)) hθ hθπ
  have hlength : ((evenPoints start.toVec3 e θ n).map fun v => v.place.toMapPoint).length =
      n.val + 1 := by
    simp [evenPoints]
  refine ⟨_, u, pathTo_eq_ok hvectors, List.ne_nil_of_length_eq_add_one hlength, ?_, ?_⟩
  · rw [List.map_map]
    exact hu
  · rwa [hlength]

/-- **Off the poles a route crosses once.**  If no point on the way counts as a pole, the route
crosses the antimeridian once at most; so it is the same whether it is cut at its first crossing
or at every one. -/
theorem between_crosses_once (start finish : GeoPoint ℝ) (n : StepCount)
    (hoff : start.AvoidsPoles finish n) :
    ∃ points, start.pathTo finish n = .ok points ∧ (seamCrossings points).length ≤ 1 ∧
      ∀ style, ∃ route, Route.between start finish n style .all = .ok route ∧
        Route.between start finish n style .first = .ok route := by
  obtain ⟨points, u, hpoints, -, hu, hway⟩ := GeoPoint.exists_unwinds hoff
  have hone := length_seamCrossings_le_one hu hway
  obtain ⟨angle, hroute⟩ := Route.exists_between hpoints
  refine ⟨points, hpoints, hone, fun style => ⟨_, hroute style .all, ?_⟩⟩
  rw [hroute style .first, SplitMode.cuts_eq hone, splitAtSeam_eq hone]
  rfl

/-- On the equator from longitude 135 to -135, over the antimeridian, no pole is on the way. -/
theorem between_crosses_once_over_antimeridian :
    let start := GeoPoint.onEquator 135 (by norm_num) (by norm_num)
    let finish := GeoPoint.onEquator (-135) (by norm_num) (by norm_num)
    let n : StepCount := ⟨2, by decide⟩
    start.AvoidsPoles finish n ∧
      ∃ points, start.pathTo finish n = .ok points ∧ (seamCrossings points).length ≤ 1 ∧
        ∀ style, ∃ route, Route.between start finish n style .all = .ok route ∧
          Route.between start finish n style .first = .ok route := by
  intro start finish n
  have hoff : start.AvoidsPoles finish n := GeoPoint.avoidsPoles_over_antimeridian n
  exact ⟨hoff, between_crosses_once start finish n hoff⟩

/-- **Off the poles a route runs one way.**  If no point on the way counts as a pole, the lines of
the route all run to the east or all to the west. -/
theorem between_runs_one_way (start finish : GeoPoint ℝ) (n : StepCount) (style : LineStyle)
    (hoff : start.AvoidsPoles finish n) :
    ∃ route, Route.between start finish n style .all = .ok route ∧
      ((∀ styled ∈ route.lines, (styled.line.points.map MapPoint.lon).SortedLE) ∨
        ∀ styled ∈ route.lines, (styled.line.points.map MapPoint.lon).SortedGE) := by
  obtain ⟨points, u, hpoints, hne, hu, hway⟩ := GeoPoint.exists_unwinds hoff
  obtain ⟨angle, hroute⟩ := Route.exists_between hpoints
  refine ⟨_, hroute style .all, ?_⟩
  refine (sorted_or_sorted_of_splitAtSeam hu hway hne).imp ?_ ?_
  · intro heast styled hstyled
    obtain ⟨line, hline, rfl⟩ := List.mem_map.1 hstyled
    exact heast line hline
  · intro hwest styled hstyled
    obtain ⟨line, hline, rfl⟩ := List.mem_map.1 hstyled
    exact hwest line hline

/-- On the equator from longitude 135 to -135 the antimeridian is one of the five points. -/
theorem between_runs_one_way_over_antimeridian :
    let start := GeoPoint.onEquator 135 (by norm_num) (by norm_num)
    let finish := GeoPoint.onEquator (-135) (by norm_num) (by norm_num)
    let n : StepCount := ⟨4, by decide⟩
    start.AvoidsPoles finish n ∧
      ∃ route, Route.between start finish n {} .all = .ok route ∧
        ((∀ styled ∈ route.lines, (styled.line.points.map MapPoint.lon).SortedLE) ∨
          ∀ styled ∈ route.lines, (styled.line.points.map MapPoint.lon).SortedGE) := by
  intro start finish n
  have hoff : start.AvoidsPoles finish n := GeoPoint.avoidsPoles_over_antimeridian n
  exact ⟨hoff, between_runs_one_way start finish n {} hoff⟩

end GreatCircle
