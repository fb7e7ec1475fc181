/-
# Sampled arcs over checked numbers

The points of an arc, and their places, are computed over `Checked` numbers as over the real ones:
`Vec3.checked_sampleTo`, `GeoPoint.checked_sampleTo`.  So no formula on the way from two places to
the places between them divides by zero.  There is one lemma for each function on this way.  Its
divisors are not zero for a reason of its own: the number of steps is positive, a vector off the
polar cap has a distance from the polar axis, and the others are tested before they are used.
-/
import GreatCircle.Proofs.Sphere.EvenPlaces
import GreatCircle.Proofs.Sphere.VersorChain

namespace GreatCircle

open Scalar

/-! ### Vectors -/

lemma Orientation.checked_rotate (q : Orientation ℝ) (v : Vec3 ℝ) :
    q.checked.rotate v.checked = (q.rotate v).checked := rfl

lemma GeoPoint.checked_toVec3 (p : GeoPoint ℝ) : p.checked.toVec3 = p.toVec3.checked := by
  rw [toVec3, Orientation.checked_orientation]
  exact p.orientation.checked_rotate baseVector

lemma StepCount.checked_fraction (n : StepCount) (i : ℕ) :
    (n.fraction i : Checked) = .of (n.fraction i) :=
  Checked.of_div n.cast_pos.ne'

/-- The rotation is asked for at the same times, and stands there in the same way. -/
lemma Orientation.IsVersor.checked_sweep {q : Orientation ℝ} (hq : q.IsVersor) (start : Vec3 ℝ)
    (n : StepCount) :
    ∃ vectors, q.sweep start n = .ok vectors ∧
      q.checked.sweep start.checked n = .ok (vectors.map Vec3.checked) := by
  have hrange : ∀ i ∈ List.range (n.val + 1),
      (0.0 : ℝ) ≤ n.fraction i ∧ (n.fraction i : ℝ) ≤ 1.0 := by
    intro i hi
    have htime := n.fraction_mem (Nat.lt_succ_iff.1 (List.mem_range.1 hi))
    norm_num
    exact htime
  refine ⟨_, mapM_eq_ok (g := fun i => (q.slerp (n.fraction i)).rotate start) fun i hi => ?_, ?_⟩
  · rw [interpolate_eq_ok (hrange i hi)]
    rfl
  · rw [List.map_map]
    refine mapM_eq_ok fun i hi => ?_
    rw [n.checked_fraction, hq.checked_interpolate (hrange i hi)]
    rfl

/-- An arc has the same points over checked numbers. -/
lemma Vec3.checked_sampleTo {start finish : Vec3 ℝ} {n : StepCount} {vectors : List (Vec3 ℝ)}
    (h : start.sampleTo finish n = .ok vectors) :
    start.checked.sampleTo finish.checked n = .ok (vectors.map Vec3.checked) := by
  obtain ⟨rotation, hrotation, hversor, hchecked⟩ := Orientation.exists_between start finish
  obtain ⟨swept, hswept, hsweptChecked⟩ := hversor.checked_sweep start n
  obtain rfl : swept = vectors :=
    Except.ok.inj (hswept.symm.trans ((sampleTo_eq_sweep n hrotation).symm.trans h))
  rw [sampleTo, hchecked]
  exact hsweptChecked

/-! ### Places -/

namespace Vec3

variable {v : Vec3 ℝ}

lemma checked_latitude (h : v.horizontal ≠ 0) : v.checked.latitude = .of v.latitude := by
  have hslope : v.checked.y / v.checked.horizontal = .of (v.y / v.horizontal) := Checked.of_div h
  rw [latitude, hslope]
  exact Checked.degrees_of _

/-- The slope is not asked for where it would divide by zero. -/
lemma checked_longitude : v.checked.longitude = .of v.longitude := by
  have hmeridian : (v.checked.x == 0.0) = true ↔ (v.x == 0.0) = true :=
    Checked.of_beq_zero.trans beq_zero_real.symm
  have heast : 0.0 ≤ v.checked.x ↔ 0.0 ≤ v.x := Checked.of_le
  have haxis : (if v.checked.x == 0.0 then withSignOf 90.0 v.checked.z
      else degrees (atan (v.checked.z / v.checked.x))) =
      .of (if v.x == 0.0 then withSignOf 90.0 v.z else degrees (atan (v.z / v.x))) := by
    simp only [hmeridian]
    split
    · exact Checked.withSignOf_of 90.0 v.z
    · rename_i hx
      have hslope : v.checked.z / v.checked.x = .of (v.z / v.x) :=
        Checked.of_div (mt beq_zero_real.2 hx)
      rw [hslope]
      exact Checked.degrees_of _
  simp only [longitude, haxis, heast]
  split <;> rfl

/-- A vector has the same place over checked numbers. -/
lemma checked_toGeoPoint (v : Vec3 ℝ) : v.checked.toGeoPoint = .ok v.place.checked := by
  have hcap : v.checked.horizontal < poleTolerance ↔ v.horizontal < poleTolerance := Checked.of_lt
  rw [← GeoPoint.ofDegrees_self v.place.checked rfl rfl, toGeoPoint]
  simp only [hcap, GeoPoint.checked, place]
  split
  · exact congrArg₂ GeoPoint.ofDegrees (Checked.withSignOf_of 90.0 v.y) rfl
  · rename_i hoff
    have hhorizontal : v.horizontal ≠ 0 := (horizontal_pos (not_lt.1 hoff)).ne'
    rw [checked_latitude hhorizontal, checked_longitude]
    exact congrArg₂ GeoPoint.ofDegrees (Checked.clamp_of 90.0 _) (Checked.clamp_of 180.0 _)

end Vec3

/-- The places along an arc are the same over checked numbers. -/
lemma GeoPoint.checked_sampleTo {start finish : GeoPoint ℝ} {n : StepCount}
    {vectors : List (Vec3 ℝ)} (h : start.toVec3.sampleTo finish.toVec3 n = .ok vectors) :
    start.checked.sampleTo finish.checked n =
      .ok ((vectors.map Vec3.place).map GeoPoint.checked) := by
  rw [sampleTo, checked_toVec3, checked_toVec3, Vec3.checked_sampleTo h]
  change (vectors.map Vec3.checked).mapM Vec3.toGeoPoint = _
  rw [List.mapM_map, List.map_map]
  exact mapM_eq_ok fun v _ => v.checked_toGeoPoint

end GreatCircle
