/-
# Places along an arc

`GeoPoint.sampleTo` samples the arc between the vectors of two places and turns every vector back
into a place.  Away from the poles nothing is lost on the way: the places go from the one end to
the other, and measured on the ground they are evenly spaced (`EvenPlaces`,
`sampleTo_evenPlaces`).
-/
import Mathlib.Algebra.Order.BigOperators.Group.List
import GreatCircle.Proofs.Sphere.EvenArc
import GreatCircle.Proofs.Sphere.GroundDistance
import GreatCircle.Proofs.Sphere.VectorPlace

namespace GreatCircle

open Scalar

/-- A function of neighbours that is constant along a list adds up to a multiple. -/
lemma sum_zipWith_tail {β : Type} {f : β → β → ℝ} {d : ℝ} {items : List β}
    (h : ∀ (i : ℕ) x y, items[i]? = some x → items[i + 1]? = some y → f x y = d) :
    (List.zipWith f items items.tail).sum = (items.length - 1 : ℕ) * d := by
  have hconst : ∀ z ∈ List.zipWith f items items.tail, z = d := by
    intro z hz
    obtain ⟨i, hi⟩ := List.mem_iff_getElem?.1 hz
    rw [List.getElem?_zipWith, List.getElem?_tail] at hi
    cases hx : items[i]? with
    | none => simp [hx] at hi
    | some x =>
      cases hy : items[i + 1]? with
      | none => simp [hx, hy] at hi
      | some y =>
        rw [← h i x y hx hy]
        simpa [hx, hy] using hi.symm
  rw [List.sum_eq_card_nsmul _ d hconst, nsmul_eq_mul]
  simp

namespace GeoPoint

/-- No point on the way between two places counts as a pole. -/
def AvoidsPoles (start finish : GeoPoint ℝ) (n : StepCount) : Prop :=
  ∀ vectors, start.toVec3.sampleTo finish.toVec3 n = .ok vectors →
    ∀ v ∈ vectors, ¬ v.horizontal < Vec3.poleTolerance

/-- The sampled places are the places of the sampled vectors. -/
lemma sampleTo_eq_ok {start finish : GeoPoint ℝ} {n : StepCount} {vectors : List (Vec3 ℝ)}
    (h : start.toVec3.sampleTo finish.toVec3 n = .ok vectors) :
    start.sampleTo finish n = .ok (vectors.map Vec3.place) := by
  rw [sampleTo, h]
  exact mapM_eq_ok fun v _ => v.toGeoPoint_eq_place

/-- The place of a longitude on the equator. -/
noncomputable def onEquator (lon : ℝ) (le_lon : -180.0 ≤ lon) (lon_le : lon ≤ 180.0) :
    GeoPoint ℝ :=
  { lat := 0
    lon := lon
    le_lat := by norm_num
    lat_le := by norm_num
    le_lon := le_lon
    lon_le := lon_le }

section Equator

variable {lon lon' : ℝ} {hlow : -180.0 ≤ lon} {hhigh : lon ≤ 180.0} {hlow' : -180.0 ≤ lon'}
  {hhigh' : lon' ≤ 180.0}

lemma dot_onEquator :
    (onEquator lon hlow hhigh).toVec3.dot (onEquator lon' hlow' hhigh').toVec3 =
      Real.cos (radians lon' - radians lon) := by
  rw [dot_toVec3]
  simp [onEquator]

/-- Between places on the equator that do not count as opposite there is no pole. -/
lemma avoidsPoles_onEquator
    (hopp : 1.0e-15 ≤
      1 + (onEquator lon hlow hhigh).toVec3.dot (onEquator lon' hlow' hhigh').toVec3)
    (n : StepCount) : (onEquator lon hlow hhigh).AvoidsPoles (onEquator lon' hlow' hhigh') n := by
  intro vectors hvectors v hv
  obtain ⟨points, hpoints, heven, hplane⟩ :=
    exists_evenArc (onSphere_toVec3 _) (onSphere_toVec3 _) hopp n
  obtain rfl : points = vectors := Except.ok.inj (hpoints.symm.trans hvectors)
  -- a sum of multiples of two vectors without height has none
  have hy : v.y = 0 := by
    obtain ⟨s, t, rfl⟩ := hplane v hv
    simp [toVec3_eq, onEquator]
  have hone := Vec3.onSphere_iff.1 (heven.onSphere v hv)
  rw [Vec3.dot_def, hy] at hone
  have hhorizontal : v.horizontal = 1 := by
    rw [Vec3.horizontal, sqrt_real, Real.sqrt_eq_one]
    linarith
  rw [hhorizontal]
  norm_num [Vec3.poleTolerance]

end Equator

/-- The quarter of the equator from longitude 135 to -135. -/
lemma dot_over_antimeridian :
    (onEquator 135 (by norm_num) (by norm_num)).toVec3.dot
      (onEquator (-135) (by norm_num) (by norm_num)).toVec3 = 0 := by
  have hangle : radians (-135 : ℝ) - radians 135 = -(Real.pi / 2 + Real.pi) := by
    rw [radians_real, radians_real]
    ring
  rw [dot_onEquator, hangle, Real.cos_neg, Real.cos_add_pi, Real.cos_pi_div_two, neg_zero]

lemma avoidsPoles_over_antimeridian (n : StepCount) :
    (onEquator 135 (by norm_num) (by norm_num)).AvoidsPoles
      (onEquator (-135) (by norm_num) (by norm_num)) n := by
  refine avoidsPoles_onEquator ?_ n
  rw [dot_over_antimeridian]
  norm_num

end GeoPoint

/-- The places go from `start` to `finish` in `n` steps of equal length on the ground.  The
antimeridian is spelled 180 at both ends. -/
structure EvenPlaces (start finish : GeoPoint ℝ) (n : StepCount) (radius : ℝ)
    (places : List (GeoPoint ℝ)) : Prop where
  length_eq : places.length = n.val + 1
  first : places.head? = some start.spelled
  last : places.getLast? = some finish.spelled
  /-- Neighbours are one step apart. -/
  step : ∀ (i : ℕ) p q, places[i]? = some p → places[i + 1]? = some q →
    p.distance q radius = start.distance finish radius / n.val
  /-- The steps add up to the whole way. -/
  total : (List.zipWith (fun p q => p.distance q radius) places places.tail).sum =
    start.distance finish radius

/-- Off the poles, vectors that lie evenly on an arc have places that do so on the ground. -/
lemma EvenArc.evenPlaces {start finish : GeoPoint ℝ} {n : StepCount} {vectors : List (Vec3 ℝ)}
    (h : EvenArc start.toVec3 finish.toVec3 (start.toVec3.angle finish.toVec3) n vectors)
    (hoff : ∀ v ∈ vectors, Vec3.poleTolerance ≤ v.horizontal) (radius : ℝ) :
    EvenPlaces start finish n radius (vectors.map Vec3.place) := by
  have hn := n.cast_pos
  have hlength : (vectors.map Vec3.place).length = n.val + 1 := by
    rw [List.length_map, h.length_eq]
  have hstep : ∀ (i : ℕ) p q, (vectors.map Vec3.place)[i]? = some p →
      (vectors.map Vec3.place)[i + 1]? = some q →
        p.distance q radius = start.distance finish radius / n.val := by
    intro i p q hp hq
    rw [List.getElem?_map, Option.map_eq_some_iff] at hp hq
    obtain ⟨v, hv, rfl⟩ := hp
    obtain ⟨w, hw, rfl⟩ := hq
    -- the places point back to the vectors, whose angles are known
    have hback : ∀ u ∈ vectors, u.place.toVec3 = u := fun u hu =>
      Vec3.OnSphere.toVec3_place (hoff u hu) (h.onSphere u hu)
    rw [GeoPoint.distance_eq, GeoPoint.distance_eq, hback v (List.mem_of_getElem? hv),
      hback w (List.mem_of_getElem? hw), h.angle_step i v w hv hw, mul_div_assoc]
  refine ⟨hlength, ?_, ?_, hstep, ?_⟩
  · have hoffStart := hoff _ (List.mem_of_getElem? h.first)
    rw [List.head?_map, List.head?_eq_getElem?, h.first, Option.map_some,
      start.place_toVec3 hoffStart]
  · have hoffFinish := hoff _ (List.mem_of_getElem? h.last)
    rw [List.getLast?_map, List.getLast?_eq_getElem?, h.length_eq, Nat.add_sub_cancel, h.last,
      Option.map_some, finish.place_toVec3 hoffFinish]
  · rw [sum_zipWith_tail hstep, hlength, Nat.add_sub_cancel]
    field_simp

/-- **Places along an arc are evenly spaced on the ground.**  Between places that do not count as
opposite, and if no point on the way counts as a pole, the sampled places go from the start to the
finish in steps that all have the same length, and these add up to the distance of the two, on a
sphere of any radius. -/
theorem sampleTo_evenPlaces (start finish : GeoPoint ℝ) (n : StepCount) (radius : ℝ)
    (hopp : 1.0e-15 ≤ 1 + start.toVec3.dot finish.toVec3)
    (hoff : start.AvoidsPoles finish n) :
    ∃ places, start.sampleTo finish n = .ok places ∧
      EvenPlaces start finish n radius places := by
  obtain ⟨vectors, hvectors, heven, -⟩ :=
    exists_evenArc start.onSphere_toVec3 finish.onSphere_toVec3 hopp n
  exact ⟨_, GeoPoint.sampleTo_eq_ok hvectors,
    heven.evenPlaces (fun v hv => not_lt.1 (hoff vectors hvectors v hv)) radius⟩

/-- Over the antimeridian: from longitude 135 to -135 on the equator it is a quarter of the
circle, and half of it in two steps. -/
theorem sampleTo_evenPlaces_over_antimeridian :
    let start := GeoPoint.onEquator 135 (by norm_num) (by norm_num)
    let finish := GeoPoint.onEquator (-135) (by norm_num) (by norm_num)
    let n : StepCount := ⟨2, by decide⟩
    1.0e-15 ≤ 1 + start.toVec3.dot finish.toVec3 ∧ start.AvoidsPoles finish n ∧
      ∃ places, start.sampleTo finish n = .ok places ∧
        EvenPlaces start finish n 6000 places ∧
        ∀ p q, places[0]? = some p → places[1]? = some q →
          p.distance q 6000 = 6000 * (Real.pi / 4) := by
  intro start finish n
  have hdot : start.toVec3.dot finish.toVec3 = 0 := GeoPoint.dot_over_antimeridian
  have hopp : 1.0e-15 ≤ 1 + start.toVec3.dot finish.toVec3 := by
    rw [hdot]
    norm_num
  have hoff : start.AvoidsPoles finish n := GeoPoint.avoidsPoles_over_antimeridian n
  obtain ⟨places, hplaces, heven⟩ := sampleTo_evenPlaces start finish n 6000 hopp hoff
  refine ⟨hopp, hoff, places, hplaces, heven, fun p q hp hq => ?_⟩
  rw [heven.step 0 p q hp hq, GeoPoint.distance_eq,
    Vec3.angle_eq_arccos start.onSphere_toVec3 finish.onSphere_toVec3, hdot, Real.arccos_zero]
  norm_num [n]
  ring

end GreatCircle
