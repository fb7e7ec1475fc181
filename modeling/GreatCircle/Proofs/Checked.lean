/-
# Numbers in which dividing by zero has no answer

Over the real numbers `x / 0` is zero, so a formula that divides by zero is not found out there.
The formulas of the library are written over any `Scalar`.  Here they are run over numbers that may
be undefined: dividing by zero gives an undefined number, and so does every operation that is handed
one.  An order test with an undefined number is false.

Where a formula gives the same defined numbers here as over the real numbers, it has divided by
zero nowhere.
-/
import GreatCircle.Proofs.Exact

namespace GreatCircle

/-- A real number, or none where a division by zero has been met. -/
@[ext] structure Checked where
  /-- The number, if there is one. -/
  value? : Option ℝ

namespace Checked

/-- A number that is there. -/
def of (x : ℝ) : Checked := ⟨some x⟩

/-- An operation on one number. -/
def lift (f : ℝ → ℝ) (x : Checked) : Checked := ⟨x.value?.map f⟩

/-- An operation on two numbers. -/
def lift₂ (f : ℝ → ℝ → ℝ) (x y : Checked) : Checked :=
  ⟨x.value?.bind fun a => y.value?.map (f a)⟩

/-- The quotient; there is none if the divisor is zero. -/
noncomputable def divide (x y : Checked) : Checked :=
  ⟨x.value?.bind fun a => y.value?.bind fun b => if b = 0 then none else some (a / b)⟩

/-- A relation between two numbers that are there. -/
def Rel (r : ℝ → ℝ → Prop) (x y : Checked) : Prop := ∃ a ∈ x.value?, ∃ b ∈ y.value?, r a b

open Classical in
/-- Exact arithmetic that notices a division by zero. -/
noncomputable instance instScalar : Scalar Checked where
  add := lift₂ (· + ·)
  sub := lift₂ (· - ·)
  mul := lift₂ (· * ·)
  neg := lift (-·)
  div := divide
  lt := Rel (· < ·)
  le := Rel (· ≤ ·)
  beq x y := decide (Rel (· = ·) x y)
  ofScientific m s e := of (OfScientific.ofScientific m s e)
  decLt := inferInstance
  decLe := inferInstance
  ofNat n := of n
  pi := of Real.pi
  magnitude := lift (|·|)
  sqrt := lift Real.sqrt
  sin := lift Real.sin
  cos := lift Real.cos
  atan := lift Real.arctan
  asin := lift Real.arcsin
  atan2 := lift₂ Scalar.atan2
  isFinite x := x.value?.isSome
  isInfinite _ := false
  isNegative x := decide (Rel (· < ·) x (of 0))

lemma rel_of {r : ℝ → ℝ → Prop} {x y : ℝ} : Rel r (of x) (of y) ↔ r x y := by
  simp [Rel, of]

lemma of_lt {x y : ℝ} : of x < of y ↔ x < y := rel_of

lemma of_le {x y : ℝ} : of x ≤ of y ↔ x ≤ y := rel_of

open Classical in
lemma of_beq {x y : ℝ} : (of x == of y) = true ↔ x = y := decide_eq_true_iff.trans rel_of

lemma of_beq_zero {x : ℝ} : (of x == 0.0) = true ↔ x = 0 := by
  refine (of_beq (y := 0.0)).trans ?_
  norm_num

lemma of_div {x y : ℝ} (hy : y ≠ 0) : of x / of y = of (x / y) := by
  change divide (of x) (of y) = _
  simp [divide, of, hy]

/-! ### The helper formulas

They divide by constants only. -/

open Scalar

lemma radians_of (x : ℝ) : radians (of x) = of (radians x) := by
  have hpi : (pi / 180.0 : Checked) = of (pi / 180.0) := of_div (by norm_num)
  rw [radians, hpi]
  rfl

lemma degrees_of (x : ℝ) : degrees (of x) = of (degrees x) := by
  have hpi : (180.0 / pi : Checked) = of (180.0 / pi) := of_div Real.pi_ne_zero
  rw [degrees, hpi]
  rfl

lemma withSignOf_of (size direction : ℝ) :
    withSignOf (of size) (of direction) = of (withSignOf size direction) := by
  have hsign : isNegative (of direction) = isNegative direction :=
    decide_eq_decide.2 (rel_of (r := (· < ·)))
  rw [withSignOf, hsign, withSignOf]
  split <;> rfl

lemma clamp_of (limit x : ℝ) : clamp (of limit) (of x) = of (clamp limit x) := by
  have hmost : atMost (of limit) (of x) = of (atMost limit x) := by
    simp only [atMost, of_lt]
    split <;> rfl
  have hleast (y : ℝ) : atLeast (-of limit) (of y) = of (atLeast (-limit) y) := by
    have hlt : -of limit < of y ↔ -limit < y := of_lt
    simp only [atLeast, hlt]
    split <;> rfl
  rw [clamp, hmost, hleast, clamp]

end Checked

end GreatCircle
