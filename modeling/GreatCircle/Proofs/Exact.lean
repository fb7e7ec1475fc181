/-
# Exact real numbers as scalars

The formulas of the library are written over any `Scalar`.  Here the real numbers are made one,
with the elementary functions of analysis: what is said about the formulas over `ℝ` is said
about them without rounding.  A real number is always finite, and it carries a minus sign when
it is negative.
-/
import Mathlib.Analysis.SpecialFunctions.Complex.Arg
import Mathlib.Analysis.SpecialFunctions.Trigonometric.Arctan
import GreatCircle.Scalar

namespace GreatCircle

namespace Scalar

/-- Exact arithmetic. -/
noncomputable instance instReal : Scalar ℝ where
  decLt := inferInstance
  decLe := inferInstance
  ofNat n := n
  pi := Real.pi
  magnitude x := |x|
  sqrt := Real.sqrt
  sin := Real.sin
  cos := Real.cos
  atan := Real.arctan
  asin := Real.arcsin
  atan2 y x := Complex.arg ⟨x, y⟩
  isFinite _ := true
  isInfinite _ := false
  isNegative x := decide (x < 0)

@[simp] lemma ofNat_real (n : ℕ) : (ofNat n : ℝ) = n := rfl

@[simp] lemma pi_real : (pi : ℝ) = Real.pi := rfl

@[simp] lemma magnitude_real (x : ℝ) : magnitude x = |x| := rfl

@[simp] lemma sqrt_real (x : ℝ) : sqrt x = Real.sqrt x := rfl

@[simp] lemma sin_real (x : ℝ) : sin x = Real.sin x := rfl

@[simp] lemma cos_real (x : ℝ) : cos x = Real.cos x := rfl

@[simp] lemma atan_real (x : ℝ) : atan x = Real.arctan x := rfl

@[simp] lemma isFinite_real (x : ℝ) : isFinite x = true := rfl

@[simp] lemma isInfinite_real (x : ℝ) : isInfinite x = false := rfl

@[simp] lemma isNegative_real (x : ℝ) : isNegative x = decide (x < 0) := rfl

lemma beq_zero_real {x : ℝ} : (x == 0.0) = true ↔ x = 0 := by
  norm_num

/-- The angle of a point in polar coordinates. -/
lemma atan2_mul_sin_cos {r θ : ℝ} (hr : 0 < r) (hθ : θ ∈ Set.Ioc (-Real.pi) Real.pi) :
    atan2 (r * Real.sin θ) (r * Real.cos θ) = θ := by
  have hpolar : (⟨r * Real.cos θ, r * Real.sin θ⟩ : ℂ) =
      r * (Complex.cos θ + Complex.sin θ * Complex.I) := by
    apply Complex.ext <;> simp [Complex.cos_ofReal_re, Complex.sin_ofReal_re]
  change Complex.arg ⟨r * Real.cos θ, r * Real.sin θ⟩ = θ
  rw [hpolar, Complex.arg_mul_cos_add_sin_mul_I hr hθ]

/-! ### Degrees and radians -/

lemma radians_real (x : ℝ) : radians x = x * (Real.pi / 180) := by
  norm_num [radians]

lemma degrees_real (x : ℝ) : degrees x = x * (180 / Real.pi) := by
  norm_num [degrees]

@[simp] lemma degrees_radians (x : ℝ) : degrees (radians x) = x := by
  rw [degrees_real, radians_real]
  field_simp

@[simp] lemma radians_degrees (x : ℝ) : radians (degrees x) = x := by
  rw [degrees_real, radians_real]
  field_simp

@[simp] lemma degrees_pi : degrees Real.pi = 180 := by
  rw [degrees_real]
  field_simp

lemma degrees_sub (x y : ℝ) : degrees (x - y) = degrees x - degrees y := by
  simp only [degrees_real, sub_mul]

lemma degrees_pi_div_two : degrees (Real.pi / 2) = 90 := by
  rw [degrees_real]
  field_simp
  norm_num

lemma withSignOf_real (size direction : ℝ) :
    withSignOf size direction = if direction < 0 then -size else size := by
  simp [withSignOf]

lemma radians_le_radians {x y : ℝ} : radians x ≤ radians y ↔ x ≤ y := by
  rw [radians_real, radians_real]
  exact mul_le_mul_iff_left₀ (by positivity)

lemma radians_inj {x y : ℝ} : radians x = radians y ↔ x = y := by
  rw [radians_real, radians_real]
  exact mul_left_inj' (by positivity)

lemma radians_lt_radians {x y : ℝ} : radians x < radians y ↔ x < y := by
  rw [radians_real, radians_real]
  exact mul_lt_mul_iff_left₀ (by positivity)

@[simp] lemma radians_zero : radians (0 : ℝ) = 0 := by
  rw [radians_real, zero_mul]

lemma radians_neg (x : ℝ) : radians (-x) = -radians x := by
  rw [radians_real, radians_real, neg_mul]

@[simp] lemma radians_half_turn : radians (180 : ℝ) = Real.pi := by
  rw [radians_real]
  ring

@[simp] lemma radians_quarter_turn : radians (90 : ℝ) = Real.pi / 2 := by
  rw [radians_real]
  ring

lemma radians_add (x y : ℝ) : radians (x + y) = radians x + radians y := by
  simp only [radians_real, add_mul]

lemma radians_sub (x y : ℝ) : radians (x - y) = radians x - radians y := by
  simp only [radians_real, sub_mul]

lemma radians_turns (k : ℤ) : radians (360 * k : ℝ) = 2 * Real.pi * k := by
  rw [radians_real]
  ring

/-- A number within the limit is left alone by clamping. -/
lemma clamp_of_abs_le {limit x : ℝ} (h : |x| ≤ limit) : clamp limit x = x := by
  obtain ⟨hlow, hhigh⟩ := abs_le.1 h
  have hmost : atMost limit x = x := by
    unfold atMost
    split
    · rfl
    · linarith
  unfold clamp
  rw [hmost]
  unfold atLeast
  split
  · rfl
  · linarith

/-! ### Half angles -/

lemma sin_eq_half (θ : ℝ) : Real.sin θ = 2 * Real.sin (θ / 2) * Real.cos (θ / 2) := by
  rw [← Real.sin_two_mul, mul_div_cancel₀ θ two_ne_zero]

lemma cos_eq_half (θ : ℝ) : Real.cos θ = 2 * Real.cos (θ / 2) ^ 2 - 1 := by
  rw [← Real.cos_two_mul, mul_div_cancel₀ θ two_ne_zero]

lemma cos_half_nonneg {θ : ℝ} (hθ : 0 ≤ θ) (hθπ : θ ≤ Real.pi) : 0 ≤ Real.cos (θ / 2) :=
  Real.cos_nonneg_of_neg_pi_div_two_le_of_le (by linarith [Real.pi_pos]) (by linarith)

lemma sin_half_nonneg {θ : ℝ} (hθ : 0 ≤ θ) (hθπ : θ ≤ Real.pi) : 0 ≤ Real.sin (θ / 2) :=
  Real.sin_nonneg_of_nonneg_of_le_pi (by linarith) (by linarith [Real.pi_pos])

end Scalar

end GreatCircle
