/-
# Ties and their meridian

A tie is a longitude within rounding of a multiple of 180 degrees.  `snapLon` moves it there, on the
map and beyond: it is defined for all longitudes, also for those that have gone round several
times.  Moving ties keeps the order of longitudes (`snapLon_mono`) and does not depend on how often
one has gone round (`snapLon_add_half_turns`).
-/
import Mathlib.Algebra.Order.Round
import GreatCircle.Proofs.Map.ExactSide

namespace GreatCircle

open Scalar

instance instDecidableIsTie {α : Type} [Scalar α] (lon : α) : Decidable (IsTie lon) :=
  inferInstanceAs (Decidable (_ < _))

lemma isTie_iff {x : ℝ} : IsTie x ↔ |Real.sin (radians x)| < Side.tieTolerance := by
  rw [IsTie, magnitude_real, Side.seamSine_real, abs_neg]

lemma isTie_add_half_turns {x : ℝ} (k : ℤ) : IsTie (x + 180 * k) ↔ IsTie x := by
  have hangle : radians (x + 180 * k) = radians x + k * Real.pi := by
    rw [radians_real, radians_real]
    ring
  rw [isTie_iff, isTie_iff, hangle, Real.sin_add_int_mul_pi, abs_mul, abs_neg_one_zpow, one_mul]

lemma isTie_half_turns (k : ℤ) : IsTie (180 * k : ℝ) := by
  have h := isTie_add_half_turns (x := 0) k
  rw [zero_add] at h
  rw [h, isTie_iff]
  norm_num [Side.tieTolerance]

/-- What is nearer to the prime meridian than a tie is a tie. -/
lemma IsTie.of_abs_le {x y : ℝ} (h : IsTie x) (hyx : |y| ≤ |x|) (hx : |x| ≤ 90) : IsTie y := by
  have hsine (z : ℝ) (hz : |z| ≤ 90) :
      |Real.sin (radians z)| = Real.sin (radians |z|) ∧ 0 ≤ radians |z| ∧
        radians |z| ≤ Real.pi / 2 := by
    have habs : |radians z| = radians |z| := by
      rw [radians_real, radians_real, abs_mul, abs_of_pos (by positivity : 0 < Real.pi / 180)]
    have hnonneg : 0 ≤ radians |z| := habs ▸ abs_nonneg _
    have hle : radians |z| ≤ Real.pi / 2 := by
      rwa [← radians_quarter_turn, radians_le_radians]
    refine ⟨?_, hnonneg, hle⟩
    rw [← habs, Real.abs_sin_eq_sin_abs_of_abs_le_pi]
    rw [habs]
    linarith [Real.pi_pos]
  obtain ⟨hx₁, hx₂, hx₃⟩ := hsine x hx
  obtain ⟨hy₁, hy₂, -⟩ := hsine y (hyx.trans hx)
  rw [isTie_iff, hx₁] at h
  rw [isTie_iff, hy₁]
  refine lt_of_le_of_lt (Real.sin_le_sin_of_le_of_le_pi_div_two ?_ hx₃ ?_) h
  · linarith [Real.pi_pos]
  · rwa [radians_le_radians]

/-- A quarter turn away from the meridians there are no ties. -/
lemma IsTie.abs_ne_quarter {x : ℝ} (h : IsTie x) : |x| ≠ 90 := by
  intro hx
  have hsine : |Real.sin (radians x)| = 1 := by
    rcases (abs_eq (by norm_num)).1 hx with rfl | rfl
    · rw [radians_quarter_turn, Real.sin_pi_div_two, abs_one]
    · rw [radians_neg, radians_quarter_turn, Real.sin_neg, Real.sin_pi_div_two, abs_neg, abs_one]
  rw [isTie_iff, hsine] at h
  norm_num [Side.tieTolerance] at h

/-! ### The nearest meridian -/

/-- The nearest multiple of 180. -/
noncomputable def meridianOf (x : ℝ) : ℝ := 180.0 * (round (x / 180.0) : ℤ)

lemma meridianOf_eq (x : ℝ) : meridianOf x = 180 * (round (x / 180) : ℤ) := by
  norm_num [meridianOf]

lemma abs_sub_meridianOf_le (x : ℝ) : |x - meridianOf x| ≤ 90 := by
  have h := abs_le.1 (abs_sub_round (x / 180))
  rw [meridianOf_eq, abs_le]
  constructor <;> linarith [h.1, h.2]

lemma meridianOf_mono : Monotone meridianOf := by
  intro x y hxy
  have hround : round (x / 180) ≤ round (y / 180) := by
    rw [round_eq, round_eq]
    exact Int.floor_mono (by linarith)
  have hcast : (round (x / 180) : ℝ) ≤ (round (y / 180) : ℝ) := by exact_mod_cast hround
  rw [meridianOf_eq, meridianOf_eq]
  linarith

lemma meridianOf_add_half_turns (x : ℝ) (k : ℤ) :
    meridianOf (x + 180 * k) = meridianOf x + 180 * k := by
  have hdiv : (x + 180 * k) / 180 = x / 180 + k := by
    field_simp
  rw [meridianOf_eq, meridianOf_eq, hdiv, round_add_intCast]
  push_cast
  ring

lemma isTie_meridianOf (x : ℝ) : IsTie (meridianOf x) := by
  rw [meridianOf_eq]
  exact isTie_half_turns _

/-- What is nearer to the meridian of a tie is a tie. -/
lemma IsTie.of_nearer {x y : ℝ} (h : IsTie x) (hyx : |y - meridianOf x| ≤ |x - meridianOf x|) :
    IsTie y := by
  have hshift (z : ℝ) : IsTie (z - meridianOf x) ↔ IsTie z := by
    have h := isTie_add_half_turns (x := z - meridianOf x) (round (x / 180))
    rw [← h, ← meridianOf_eq, sub_add_cancel]
  rw [← hshift] at h ⊢
  exact h.of_abs_le hyx (abs_sub_meridianOf_le x)

/-! ### Ties moved onto their meridian -/

/-- A longitude, moved onto its meridian if it is a tie. -/
noncomputable def snapLon (x : ℝ) : ℝ := if IsTie x then meridianOf x else x

lemma snapLon_of_isTie {x : ℝ} (h : IsTie x) : snapLon x = meridianOf x := if_pos h

lemma snapLon_of_not_isTie {x : ℝ} (h : ¬ IsTie x) : snapLon x = x := if_neg h

/-- Moving ties makes no ties and loses none. -/
lemma isTie_snapLon {x : ℝ} : IsTie (snapLon x) ↔ IsTie x := by
  by_cases h : IsTie x
  · rw [snapLon_of_isTie h]
    exact iff_of_true (isTie_meridianOf x) h
  · rw [snapLon_of_not_isTie h]

lemma snapLon_add_half_turns (x : ℝ) (k : ℤ) : snapLon (x + 180 * k) = snapLon x + 180 * k := by
  by_cases h : IsTie x
  · rw [snapLon_of_isTie h, snapLon_of_isTie ((isTie_add_half_turns k).2 h),
      meridianOf_add_half_turns]
  · rw [snapLon_of_not_isTie h, snapLon_of_not_isTie fun htie => h ((isTie_add_half_turns k).1 htie)]

/-- **Moving ties keeps the order.** -/
theorem snapLon_mono : Monotone snapLon := by
  intro x y hxy
  by_cases hx : IsTie x <;> by_cases hy : IsTie y
  · rw [snapLon_of_isTie hx, snapLon_of_isTie hy]
    exact meridianOf_mono hxy
  · -- were `y` before the meridian of `x`, it would be nearer to it than `x`
    rw [snapLon_of_isTie hx, snapLon_of_not_isTie hy]
    by_contra hlt
    refine hy (hx.of_nearer ?_)
    rw [abs_of_neg (by linarith), abs_of_neg (by linarith)]
    linarith
  · rw [snapLon_of_not_isTie hx, snapLon_of_isTie hy]
    by_contra hlt
    refine hx (hy.of_nearer ?_)
    rw [abs_of_pos (by linarith), abs_of_pos (by linarith)]
    linarith
  · rw [snapLon_of_not_isTie hx, snapLon_of_not_isTie hy]
    exact hxy

/-- Moving ties does not lead further than half a turn apart. -/
lemma abs_snapLon_sub_le {x y : ℝ} (h : |y - x| ≤ 180) : |snapLon y - snapLon x| ≤ 180 := by
  obtain ⟨hlow, hhigh⟩ := abs_le.1 h
  have hup := snapLon_add_half_turns x 1
  have hdown := snapLon_add_half_turns x (-1)
  push_cast at hup hdown
  have hle := snapLon_mono (show y ≤ x + 180 * 1 by linarith)
  have hge := snapLon_mono (show x + 180 * -1 ≤ y by linarith)
  rw [abs_le]
  constructor <;> linarith

end GreatCircle
