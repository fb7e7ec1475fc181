/-
# Parts of a sampled arc

Setting out from any point of a great circle, along it, one meets the same points as from its first
(`Vec3.travel_travel`).  So sampling between two of the points of a sampled arc, in as many steps as
lie between them, gives the points between them again, in the one order or in the other
(`sampleTo_part`), although the two rotations are built from different ends.
-/
import GreatCircle.Proofs.Sphere.EvenArc

namespace GreatCircle

open Scalar

namespace Vec3

variable {a e : Vec3 ℝ}

/-- After the angle `φ` the direction has turned by `φ` as well: it is a quarter turn ahead. -/
lemma travel_travel (a e : Vec3 ℝ) (φ ψ : ℝ) :
    (a.travel e φ).travel (a.travel e (φ + Real.pi / 2)) ψ = a.travel e (φ + ψ) := by
  simp only [travel, Real.cos_add_pi_div_two, Real.sin_add_pi_div_two, Real.cos_add φ ψ,
    Real.sin_add φ ψ]
  ext <;> simp <;> ring

/-- Setting out the other way is going back. -/
lemma travel_neg (a e : Vec3 ℝ) (φ : ℝ) : a.travel (-e) φ = a.travel e (-φ) := by
  ext <;> simp [travel]

/-- What is reached tells the direction, unless it is the start or its opposite. -/
lemma eq_of_travel_eq {d : Vec3 ℝ} {φ : ℝ} (hφ : Real.sin φ ≠ 0)
    (h : a.travel d φ = a.travel e φ) : d = e := by
  have hx := congrArg Vec3.x h
  have hy := congrArg Vec3.y h
  have hz := congrArg Vec3.z h
  simp only [travel, add_x, add_y, add_z, smul_x, smul_y, smul_z] at hx hy hz
  ext
  · exact mul_left_cancel₀ hφ (by linarith)
  · exact mul_left_cancel₀ hφ (by linarith)
  · exact mul_left_cancel₀ hφ (by linarith)

lemma IsHeading.neg (h : IsHeading a e) : IsHeading a (-e) := by
  refine ⟨h.onSphere, ?_, ?_⟩
  · have hunit := onSphere_iff.1 h.unit
    rw [onSphere_iff]
    simp only [dot_def, neg_x, neg_y, neg_z] at hunit ⊢
    linear_combination hunit
  · have hperp := h.perp
    simp only [dot_def, neg_x, neg_y, neg_z] at hperp ⊢
    linear_combination -hperp

/-- Between two points of a great circle that are less than half a turn apart, sampling gives the
points of that circle. -/
lemma IsHeading.sampleTo_travel (h : IsHeading a e) {φ ψ : ℝ} (hψ : 0 ≤ ψ) (hψπ : ψ ≤ Real.pi)
    (hopp : 1.0e-15 ≤ 1 + (a.travel e φ).dot (a.travel e (φ + ψ))) (n : StepCount) :
    (a.travel e φ).sampleTo (a.travel e (φ + ψ)) n =
      .ok ((List.range (n.val + 1)).map fun i => a.travel e (φ + n.fraction i * ψ)) := by
  obtain ⟨d, -, hend, hpoints⟩ :=
    sampleTo_eq_evenPoints (h.onSphere_travel φ) (h.onSphere_travel (φ + ψ)) hopp n
  have hangle : (a.travel e φ).angle (a.travel e (φ + ψ)) = ψ := by
    rw [h.angle_travel (by linarith) (by linarith)]
    ring
  rw [hangle] at hend hpoints
  rw [hpoints, evenPoints]
  refine congrArg Except.ok (List.map_congr_left fun i _ => ?_)
  rcases hψ.eq_or_lt with rfl | hpos
  · -- the two points are the same, and so are all between them
    rw [mul_zero, travel_zero, add_zero]
  · have hsin : Real.sin ψ ≠ 0 := by
      refine (Real.sin_pos_of_pos_of_lt_pi hpos (lt_of_le_of_ne hψπ ?_)).ne'
      rintro rfl
      rw [h.dot_travel_travel, add_sub_cancel_left, Real.cos_pi] at hopp
      norm_num at hopp
    have hd : d = a.travel e (φ + Real.pi / 2) := by
      refine eq_of_travel_eq (a := a.travel e φ) hsin ?_
      rw [← hend, travel_travel]
    rw [hd, travel_travel]

end Vec3

/-! ### Runs of points -/

/-- How many steps lead from one position to a later one. -/
def StepCount.upTo {i j : ℕ} (h : i < j) : StepCount := ⟨j - i, Nat.sub_pos_of_lt h⟩

lemma StepCount.upTo_val {i j : ℕ} (h : i < j) : (StepCount.upTo h).val = j - i := rfl

/-- The points from one position to a later one, both included. -/
def pointsBetween (points : List (Vec3 ℝ)) (first last : ℕ) : List (Vec3 ℝ) :=
  (points.drop first).take (last - first + 1)

section Between

variable {n : StepCount} {i j : ℕ} (hij : i < j)

lemma pointsBetween_evenPoints (hj : j ≤ n.val) (a e : Vec3 ℝ) (θ : ℝ) :
    pointsBetween (evenPoints a e θ n) i j =
      (List.range ((StepCount.upTo hij).val + 1)).map fun k =>
        a.travel e (n.fraction (i + k) * θ) := by
  rw [pointsBetween, evenPoints, StepCount.upTo_val]
  apply List.ext_getElem
  · simp only [List.length_take, List.length_drop, List.length_map, List.length_range]
    omega
  · intro k _ _
    simp only [List.getElem_take, List.getElem_drop, List.getElem_map, List.getElem_range]

lemma reverse_map_range {β : Type} (m : ℕ) (f : ℕ → β) :
    ((List.range (m + 1)).map f).reverse = (List.range (m + 1)).map fun k => f (m - k) := by
  apply List.ext_getElem
  · simp only [List.length_reverse, List.length_map]
  · intro k _ _
    simp only [List.getElem_reverse, List.getElem_map, List.getElem_range, List.length_map,
      List.length_range]
    rfl

/-- A step between two positions is a step of the whole. -/
lemma fraction_upTo_mul (θ : ℝ) (k : ℕ) :
    (StepCount.upTo hij).fraction k * (n.fraction j * θ - n.fraction i * θ) = k * θ / n.val := by
  have hn := n.cast_pos
  have hm := (StepCount.upTo hij).cast_pos
  have hcast : ((StepCount.upTo hij).val : ℝ) = j - i := by
    rw [StepCount.upTo_val, Nat.cast_sub hij.le]
  rw [hcast] at hm
  rw [StepCount.fraction_real, n.fraction_real, n.fraction_real, hcast]
  field_simp

/-- Sampling between two of the even points of a great circle, onwards and back. -/
lemma Vec3.IsHeading.sampleTo_between {a e : Vec3 ℝ} (h : IsHeading a e) {θ : ℝ} (hθ : 0 ≤ θ)
    (hθπ : θ ≤ Real.pi) (hj : j ≤ n.val)
    (hopp : 1.0e-15 ≤
      1 + (a.travel e (n.fraction i * θ)).dot (a.travel e (n.fraction j * θ))) :
    (a.travel e (n.fraction i * θ)).sampleTo (a.travel e (n.fraction j * θ)) (.upTo hij) =
        .ok (pointsBetween (evenPoints a e θ n) i j) ∧
      (a.travel e (n.fraction j * θ)).sampleTo (a.travel e (n.fraction i * θ)) (.upTo hij) =
        .ok (pointsBetween (evenPoints a e θ n) i j).reverse := by
  obtain ⟨hlow, -⟩ := n.fraction_mem (hij.le.trans hj)
  obtain ⟨-, hhigh⟩ := n.fraction_mem hj
  have hle : (n.fraction i : ℝ) ≤ n.fraction j := by
    rw [n.fraction_real, n.fraction_real]
    have hcast : (i : ℝ) ≤ j := by exact_mod_cast hij.le
    have hn := n.cast_pos
    gcongr
  set φ : ℝ := n.fraction i * θ with hφ
  set ψ : ℝ := n.fraction j * θ - φ with hψ
  have hsum : n.fraction j * θ = φ + ψ := by rw [hψ]; ring
  have hψ0 : 0 ≤ ψ := by nlinarith
  have hψπ : ψ ≤ Real.pi := by nlinarith
  have hstep (k : ℕ) : (StepCount.upTo hij).fraction k * ψ = k * θ / n.val :=
    fraction_upTo_mul hij θ k
  rw [hsum] at hopp ⊢
  rw [pointsBetween_evenPoints hij hj]
  constructor
  · rw [h.sampleTo_travel hψ0 hψπ hopp]
    refine congrArg Except.ok (List.map_congr_left fun k _ => ?_)
    congr 1
    rw [hstep, hφ, n.fraction_real, n.fraction_real]
    push_cast
    ring
  · -- the way back sets out from the end in the other direction
    have hback (χ : ℝ) : a.travel e χ = a.travel (-e) (-χ) := by
      rw [Vec3.travel_neg, neg_neg]
    have hend : a.travel e φ = a.travel (-e) (-(φ + ψ) + ψ) := by
      rw [hback]
      congr 1
      ring
    rw [Vec3.dot_comm, hback (φ + ψ), hend] at hopp
    rw [hback (φ + ψ), hend, h.neg.sampleTo_travel hψ0 hψπ hopp, reverse_map_range]
    refine congrArg Except.ok (List.map_congr_left fun k hk => ?_)
    have hk : k ≤ j - i := Nat.lt_succ_iff.1 (List.mem_range.1 hk)
    rw [Vec3.travel_neg]
    congr 1
    rw [hstep, ← hsum, StepCount.upTo_val, n.fraction_real, n.fraction_real,
      Nat.cast_add, Nat.cast_sub hk, Nat.cast_sub hij.le]
    ring

end Between

/-- **Parts of an arc.**  Sampling between two of the points that sampling gave, as long as they do
not count as opposite, in as many steps as lie between them, gives the points between them: in the
order in which they came, or, from the later one to the earlier, in the opposite order.  So sampling
from the end to the start reverses sampling from the start to the end. -/
theorem sampleTo_part {start finish : Vec3 ℝ} (hstart : start.OnSphere)
    (hfinish : finish.OnSphere) (n : StepCount) :
    ∃ points, start.sampleTo finish n = .ok points ∧ points.length = n.val + 1 ∧
      (∀ (i j : ℕ) (v w : Vec3 ℝ) (hij : i < j), points[i]? = some v → points[j]? = some w →
        1.0e-15 ≤ 1 + v.dot w →
          v.sampleTo w (.upTo hij) = .ok (pointsBetween points i j) ∧
          w.sampleTo v (.upTo hij) = .ok (pointsBetween points i j).reverse) ∧
      (1.0e-15 ≤ 1 + start.dot finish → finish.sampleTo start n = .ok points.reverse) := by
  obtain ⟨e, θ, hheading, hθ, hθπ, hpoints⟩ := exists_sampleTo_eq_evenPoints hstart hfinish n
  have hpart : ∀ (i j : ℕ) (v w : Vec3 ℝ) (hij : i < j),
      (evenPoints start e θ n)[i]? = some v → (evenPoints start e θ n)[j]? = some w →
      1.0e-15 ≤ 1 + v.dot w →
        v.sampleTo w (.upTo hij) = .ok (pointsBetween (evenPoints start e θ n) i j) ∧
        w.sampleTo v (.upTo hij) = .ok (pointsBetween (evenPoints start e θ n) i j).reverse := by
    intro i j v w hij hv hw hopp
    obtain ⟨-, rfl⟩ := getElem?_evenPoints hv
    obtain ⟨hj, rfl⟩ := getElem?_evenPoints hw
    exact hheading.sampleTo_between hij hθ hθπ hj hopp
  refine ⟨_, hpoints, by simp [evenPoints], hpart, fun hregular => ?_⟩
  -- the whole arc is the part from its first point to its last
  obtain ⟨points, hsame, heven, -⟩ := exists_evenArc hstart hfinish hregular n
  obtain rfl : evenPoints start e θ n = points := Except.ok.inj (hpoints.symm.trans hsame)
  obtain ⟨-, hback⟩ := hpart 0 n.val start finish n.pos heven.first heven.last hregular
  have hall : pointsBetween (evenPoints start e θ n) 0 n.val = evenPoints start e θ n := by
    rw [pointsBetween, List.drop_zero, Nat.sub_zero, ← heven.length_eq, List.take_length]
  rw [hall] at hback
  exact hback

/-- Half a great circle in two steps, between opposite points: the way back from its middle to its
start is found again by a rotation that is not a half turn. -/
theorem sampleTo_part_half_turn :
    let start : Vec3 ℝ := ⟨0, 0, 1⟩
    let n : StepCount := ⟨2, by decide⟩
    start.OnSphere ∧ (-start).OnSphere ∧ 1 + start.dot (-start) < 1.0e-15 ∧
      ∃ points middle, start.sampleTo (-start) n = .ok points ∧ points[1]? = some middle ∧
        start.dot middle = 0 ∧
        middle.sampleTo start (.upTo Nat.zero_lt_one) = .ok (pointsBetween points 0 1).reverse := by
  intro start n
  have hstart : start.OnSphere := by
    rw [Vec3.onSphere_iff]
    norm_num [start, Vec3.dot_def]
  have hfinish : (-start).OnSphere := by
    rw [Vec3.onSphere_iff]
    norm_num [start, Vec3.dot_def]
  have hopposite : 1 + start.dot (-start) < 1.0e-15 := by
    norm_num [start, Vec3.dot_def]
  obtain ⟨points, hpoints, hlength, hpart, -⟩ := sampleTo_part hstart hfinish n
  obtain ⟨same, hsame, heven, -⟩ := exists_evenArc_half_turn hstart hopposite n
  obtain rfl : points = same := Except.ok.inj (hpoints.symm.trans hsame)
  have hone : 1 < points.length := by
    rw [hlength]
    decide
  obtain ⟨middle, hmiddle⟩ : ∃ middle, points[1]? = some middle :=
    ⟨_, List.getElem?_eq_getElem hone⟩
  -- the middle is a quarter turn away
  have hdot : start.dot middle = 0 := by
    have hsphere := heven.onSphere middle (List.mem_of_getElem? hmiddle)
    have hcos := Vec3.cos_angle hstart hsphere
    rw [heven.angle_start 1 middle hmiddle] at hcos
    norm_num [n] at hcos
    exact hcos.symm
  obtain ⟨-, hback⟩ := hpart 0 1 start middle Nat.zero_lt_one heven.first hmiddle
    (by rw [hdot]; norm_num)
  exact ⟨hstart, hfinish, hopposite, points, middle, hpoints, hmiddle, hdot, hback⟩

end GreatCircle
