/-
# Sampling an arc in equal steps

`Vec3.sampleTo` turns the start by growing parts of one rotation.  The points it gives lie evenly
on a great circle: `EvenArc` says what this means, and `sampleTo_evenArc` that it is so, along
the arc to the end point, or along half a great circle where the two points count as opposite.
-/
import GreatCircle.Proofs.Sphere.ShortestArc
import GreatCircle.Sphere.Sampling

namespace GreatCircle

open Scalar

/-- The points go from `start` to `finish`, which is the angle `θ` away, in `n` equal steps. -/
structure EvenArc (start finish : Vec3 ℝ) (θ : ℝ) (n : StepCount) (points : List (Vec3 ℝ)) :
    Prop where
  length_eq : points.length = n.val + 1
  onSphere : ∀ v ∈ points, v.OnSphere
  first : points[0]? = some start
  last : points[n.val]? = some finish
  /-- The `i`-th point is `i` steps from the start. -/
  angle_start : ∀ (i : ℕ) v, points[i]? = some v → start.angle v = i * θ / n.val
  /-- Neighbours are one step apart. -/
  angle_step : ∀ (i : ℕ) v w, points[i]? = some v → points[i + 1]? = some w →
    v.angle w = θ / n.val

/-- The points reached from `a` in the direction `e` after `0`, `1/n`, … of the angle `θ`. -/
noncomputable def evenPoints (a e : Vec3 ℝ) (θ : ℝ) (n : StepCount) : List (Vec3 ℝ) :=
  (List.range (n.val + 1)).map fun i => a.travel e (n.fraction i * θ)

lemma StepCount.fraction_real (n : StepCount) (i : ℕ) : (n.fraction i : ℝ) = i / n.val := rfl

lemma StepCount.cast_pos (n : StepCount) : (0 : ℝ) < n.val := by
  exact_mod_cast n.pos

lemma StepCount.fraction_mem (n : StepCount) {i : ℕ} (hi : i ≤ n.val) :
    0 ≤ (n.fraction i : ℝ) ∧ (n.fraction i : ℝ) ≤ 1 := by
  have hn := n.cast_pos
  rw [n.fraction_real]
  refine ⟨by positivity, ?_⟩
  rw [div_le_one hn]
  exact_mod_cast hi

lemma getElem?_evenPoints {a e : Vec3 ℝ} {θ : ℝ} {n : StepCount} {i : ℕ} {v : Vec3 ℝ}
    (h : (evenPoints a e θ n)[i]? = some v) : i ≤ n.val ∧ v = a.travel e (n.fraction i * θ) := by
  obtain ⟨hi, hv⟩ := List.getElem?_eq_some_iff.1 h
  simp only [evenPoints, List.length_map, List.length_range] at hi
  refine ⟨by omega, ?_⟩
  simpa [evenPoints] using hv.symm

/-- Equal parts of an angle of at most half a turn lie evenly on a great circle. -/
lemma evenArc_evenPoints {a e : Vec3 ℝ} (h : a.IsHeading e) {θ : ℝ} (hθ : 0 ≤ θ)
    (hθπ : θ ≤ Real.pi) (n : StepCount) :
    EvenArc a (a.travel e θ) θ n (evenPoints a e θ n) := by
  have hn := n.cast_pos
  refine ⟨by simp [evenPoints], ?_, ?_, ?_, ?_, ?_⟩
  · intro v hv
    obtain ⟨i, -, rfl⟩ := List.mem_map.1 hv
    exact h.onSphere_travel _
  · simp [evenPoints, n.fraction_real]
  · simp [evenPoints, n.fraction_real, hn.ne']
  · intro i v hv
    obtain ⟨hi, rfl⟩ := getElem?_evenPoints hv
    obtain ⟨hlow, hhigh⟩ := n.fraction_mem hi
    have hangle := h.angle_travel (φ := 0) (ψ := n.fraction i * θ) (by positivity) (by nlinarith)
    rw [Vec3.travel_zero, sub_zero] at hangle
    rw [hangle, n.fraction_real]
    ring
  · intro i v w hv hw
    obtain ⟨-, rfl⟩ := getElem?_evenPoints hv
    obtain ⟨hi, rfl⟩ := getElem?_evenPoints hw
    have hstep : n.fraction (i + 1) * θ - n.fraction i * θ = θ / n.val := by
      rw [n.fraction_real, n.fraction_real]
      push_cast
      ring
    have hone : (1 : ℝ) ≤ n.val := by exact_mod_cast n.pos
    have hle : θ / n.val ≤ θ := div_le_self hθ hone
    have hnonneg : 0 ≤ θ / n.val := by positivity
    rw [h.angle_travel (by linarith) (by linarith), hstep]

/-- Up to less than half a turn, the points on the way are sums of multiples of the two ends. -/
lemma exists_travel_eq_add {a e : Vec3 ℝ} {θ : ℝ} (hθ : 0 ≤ θ) (hθπ : θ < Real.pi) (t : ℝ) :
    ∃ r s : ℝ, a.travel e (t * θ) = r • a + s • a.travel e θ := by
  rcases hθ.eq_or_lt with rfl | hpos
  · -- the ends are the same point, and so is every point between
    refine ⟨1, 0, ?_⟩
    ext <;> simp
  · have hsin : Real.sin θ ≠ 0 := (Real.sin_pos_of_pos_of_lt_pi hpos hθπ).ne'
    refine ⟨Real.cos (t * θ) - Real.sin (t * θ) * Real.cos θ / Real.sin θ,
      Real.sin (t * θ) / Real.sin θ, ?_⟩
    ext <;> simp [Vec3.travel] <;> field_simp <;> ring

/-- A list of steps that all succeed. -/
lemma mapM_eq_ok {ε β γ : Type} {f : β → Except ε γ} {g : β → γ} {items : List β}
    (h : ∀ x ∈ items, f x = .ok (g x)) : items.mapM f = .ok (items.map g) := by
  induction items with
  | nil => rfl
  | cons x items ih =>
    have hrest := ih fun y hy => h y (by simp [hy])
    rw [List.mapM_cons, h x (by simp), hrest]
    rfl

/-- Sweeping a point with a turn about an axis square to it. -/
lemma Orientation.sweep_turn {axis start : Vec3 ℝ} (haxis : axis.OnSphere)
    (hperp : axis.dot start = 0) {θ : ℝ} (hθ : 0 ≤ θ) (hθπ : θ ≤ Real.pi) (n : StepCount) :
    (Orientation.turn axis θ).sweep start n =
      .ok (evenPoints start (axis.cross start) θ n) := by
  refine mapM_eq_ok fun i hi => ?_
  obtain ⟨hlow, hhigh⟩ := n.fraction_mem (Nat.lt_succ_iff.1 (List.mem_range.1 hi))
  have hrange : (0.0 : ℝ) ≤ n.fraction i ∧ (n.fraction i : ℝ) ≤ 1.0 := by
    norm_num
    exact ⟨hlow, hhigh⟩
  rw [Orientation.interpolate_eq_ok hrange, Orientation.slerp_turn haxis hθ hθπ]
  change Except.ok ((Orientation.turn axis (n.fraction i * θ)).rotate start) = _
  rw [Orientation.rotate_turn haxis hperp]

lemma Vec3.sampleTo_eq_sweep {start finish : Vec3 ℝ} {rotation : Orientation ℝ} (n : StepCount)
    (h : Orientation.between start finish = .ok rotation) :
    start.sampleTo finish n = rotation.sweep start n := by
  rw [Vec3.sampleTo, h]
  rfl

section Sample

variable {start finish : Vec3 ℝ} (hstart : start.OnSphere)
include hstart

/-- Sampling between points that do not count as opposite. -/
lemma sampleTo_eq_evenPoints (hfinish : finish.OnSphere)
    (h : 1.0e-15 ≤ 1 + start.dot finish) (n : StepCount) :
    ∃ e, start.IsHeading e ∧ finish = start.travel e (start.angle finish) ∧
      start.sampleTo finish n = .ok (evenPoints start e (start.angle finish) n) := by
  obtain ⟨axis, haxis, hperp, hbetween, hend⟩ :=
    Orientation.between_eq_turn hstart hfinish h
  refine ⟨axis.cross start, Vec3.isHeading_cross haxis hstart hperp, hend, ?_⟩
  rw [Vec3.sampleTo_eq_sweep n hbetween]
  exact Orientation.sweep_turn haxis hperp (Vec3.angle_nonneg hstart hfinish)
    (Vec3.angle_le_pi hstart hfinish) n

/-- Between points that do not count as opposite, the sampled points lie evenly on the arc, and
are made of its two ends. -/
lemma exists_evenArc (hfinish : finish.OnSphere) (h : 1.0e-15 ≤ 1 + start.dot finish)
    (n : StepCount) :
    ∃ points, start.sampleTo finish n = .ok points ∧
      EvenArc start finish (start.angle finish) n points ∧
      ∀ v ∈ points, ∃ s t : ℝ, v = s • start + t • finish := by
  obtain ⟨e, hheading, hend, hpoints⟩ := sampleTo_eq_evenPoints hstart hfinish h n
  have hθ := Vec3.angle_nonneg hstart hfinish
  have hθπ : start.angle finish < Real.pi := by
    refine lt_of_le_of_ne (Vec3.angle_le_pi hstart hfinish) fun hπ => ?_
    have hcos := Vec3.cos_angle hstart hfinish
    rw [hπ, Real.cos_pi] at hcos
    rw [← hcos] at h
    norm_num at h
  have heven := evenArc_evenPoints hheading hθ hθπ.le n
  rw [← hend] at heven
  refine ⟨_, hpoints, heven, fun v hv => ?_⟩
  obtain ⟨i, -, rfl⟩ := List.mem_map.1 hv
  obtain ⟨r, s, hsum⟩ := exists_travel_eq_add (a := start) (e := e) hθ hθπ (n.fraction i)
  rw [← hend] at hsum
  exact ⟨r, s, hsum⟩

/-- Sampling between points that count as opposite. -/
lemma sampleTo_eq_evenPoints_pi (h : 1 + start.dot finish < 1.0e-15) (n : StepCount) :
    ∃ axis : Vec3 ℝ, axis.OnSphere ∧ axis.dot start = 0 ∧
      start.sampleTo finish n = .ok (evenPoints start (axis.cross start) Real.pi n) := by
  obtain ⟨axis, haxis, hperp, hbetween⟩ := Orientation.between_eq_half_turn hstart h
  refine ⟨axis, haxis, hperp, ?_⟩
  rw [Vec3.sampleTo_eq_sweep n hbetween]
  exact Orientation.sweep_turn haxis hperp Real.pi_pos.le le_rfl n

/-- Between any two points of the sphere, sampling gives the points of a great circle, in equal
parts of an angle of at most half a turn. -/
lemma exists_sampleTo_eq_evenPoints (hfinish : finish.OnSphere) (n : StepCount) :
    ∃ e θ, start.IsHeading e ∧ 0 ≤ θ ∧ θ ≤ Real.pi ∧
      start.sampleTo finish n = .ok (evenPoints start e θ n) := by
  rcases le_or_gt 1.0e-15 (1 + start.dot finish) with hregular | hopposite
  · obtain ⟨e, hheading, -, hpoints⟩ := sampleTo_eq_evenPoints hstart hfinish hregular n
    exact ⟨e, _, hheading, Vec3.angle_nonneg hstart hfinish, Vec3.angle_le_pi hstart hfinish,
      hpoints⟩
  · obtain ⟨axis, haxis, hperp, hpoints⟩ := sampleTo_eq_evenPoints_pi hstart hopposite n
    exact ⟨_, _, Vec3.isHeading_cross haxis hstart hperp, Real.pi_pos.le, le_rfl, hpoints⟩

/-- Between points that count as opposite, the sampled points lie evenly on half a great
circle. -/
lemma exists_evenArc_half_turn (h : 1 + start.dot finish < 1.0e-15) (n : StepCount) :
    ∃ points, start.sampleTo finish n = .ok points ∧
      EvenArc start (-start) Real.pi n points ∧
      ∃ pole : Vec3 ℝ, pole.OnSphere ∧ pole.dot start = 0 ∧ ∀ v ∈ points, pole.dot v = 0 := by
  obtain ⟨axis, haxis, hperp, hpoints⟩ := sampleTo_eq_evenPoints_pi hstart h n
  have heven := evenArc_evenPoints (Vec3.isHeading_cross haxis hstart hperp)
    Real.pi_pos.le le_rfl n
  rw [Vec3.travel_pi] at heven
  refine ⟨_, hpoints, heven, axis, haxis, hperp, fun v hv => ?_⟩
  obtain ⟨i, -, rfl⟩ := List.mem_map.1 hv
  rw [Vec3.travel, Vec3.dot_add, Vec3.dot_smul, Vec3.dot_smul, hperp, Vec3.dot_cross_left]
  ring

/-- From a point to itself there is only that point. -/
lemma sampleTo_self (n : StepCount) :
    start.sampleTo start n = .ok (List.replicate (n.val + 1) start) := by
  have hself := Vec3.onSphere_iff.1 hstart
  obtain ⟨e, -, -, hpoints⟩ :=
    sampleTo_eq_evenPoints hstart hstart (by rw [hself]; norm_num) n
  have hangle : start.angle start = 0 :=
    Vec3.angle_eq hstart hstart le_rfl Real.pi_pos.le (by rw [hself, Real.cos_zero])
  rw [hpoints, hangle]
  simp [evenPoints]

/-- **Sampling is even.**  Between points of the sphere that do not count as opposite, the points
lie in equal steps on the arc from the one to the other, and are made of the two; between points
that do, they lie in equal steps on half a great circle from the start to its opposite; from a
point to itself they all are that point. -/
theorem sampleTo_evenArc (hfinish : finish.OnSphere) (n : StepCount) :
    (1.0e-15 ≤ 1 + start.dot finish →
      ∃ points, start.sampleTo finish n = .ok points ∧
        EvenArc start finish (start.angle finish) n points ∧
        ∀ v ∈ points, ∃ s t : ℝ, v = s • start + t • finish) ∧
    (1 + start.dot finish < 1.0e-15 →
      ∃ points, start.sampleTo finish n = .ok points ∧
        EvenArc start (-start) Real.pi n points ∧
        ∃ pole : Vec3 ℝ, pole.OnSphere ∧ pole.dot start = 0 ∧ ∀ v ∈ points, pole.dot v = 0) ∧
    (start = finish → start.sampleTo finish n = .ok (List.replicate (n.val + 1) start)) := by
  refine ⟨fun h => exists_evenArc hstart hfinish h n,
    fun h => exists_evenArc_half_turn hstart h n, ?_⟩
  rintro rfl
  exact sampleTo_self hstart n

end Sample

/-- A quarter of a great circle in two steps: the middle is an eighth of a turn away. -/
theorem sampleTo_evenArc_quarter_turn :
    let start : Vec3 ℝ := ⟨0, 0, 1⟩
    let finish : Vec3 ℝ := ⟨1, 0, 0⟩
    let n : StepCount := ⟨2, by decide⟩
    start.OnSphere ∧ finish.OnSphere ∧ 1.0e-15 ≤ 1 + start.dot finish ∧
      ∃ points, start.sampleTo finish n = .ok points ∧
        EvenArc start finish (Real.pi / 2) n points ∧
        ∀ v, points[1]? = some v → start.angle v = Real.pi / 4 := by
  intro start finish n
  have hstart : start.OnSphere := by
    rw [Vec3.onSphere_iff]
    norm_num [start, Vec3.dot_def]
  have hfinish : finish.OnSphere := by
    rw [Vec3.onSphere_iff]
    norm_num [finish, Vec3.dot_def]
  have hdot : start.dot finish = 0 := by
    norm_num [start, finish, Vec3.dot_def]
  have hopp : 1.0e-15 ≤ 1 + start.dot finish := by
    rw [hdot]
    norm_num
  have hangle : start.angle finish = Real.pi / 2 := by
    rw [Vec3.angle_eq_arccos hstart hfinish, hdot, Real.arccos_zero]
  obtain ⟨hregular, -, -⟩ := sampleTo_evenArc hstart hfinish n
  obtain ⟨points, hpoints, heven, -⟩ := hregular hopp
  rw [hangle] at heven
  refine ⟨hstart, hfinish, hopp, points, hpoints, heven, fun v hv => ?_⟩
  rw [heven.angle_start 1 v hv]
  norm_num [n]
  ring

end GreatCircle
