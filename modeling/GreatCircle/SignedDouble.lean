/-
# Doubles that keep their sign

An undefined double carries a sign like any other, but `Float` does not tell it.  A
`SignedDouble` remembers the sign beside the number, so that a formula that looks at the sign of a
number says the same for an undefined one.
-/
import GreatCircle.Scalar

namespace GreatCircle

/-- A double with the sign that it carries. -/
structure SignedDouble where
  /-- The number. -/
  value : Float
  /-- It carries a minus sign. -/
  negative : Bool

namespace SignedDouble

/-- A double with its own sign. -/
def ofFloat (x : Float) : SignedDouble := ⟨x, Scalar.isNegative x⟩

/-- What an operation on some operands comes to.  An undefined number has the sign of the first
undefined operand; it carries a minus sign if all operands are defined. -/
def result (operands : List SignedDouble) (x : Float) : SignedDouble :=
  if x.isNaN then
    ⟨x, ((operands.find? fun d => d.value.isNaN).map SignedDouble.negative).getD true⟩
  else ofFloat x

/-- An operation on one number. -/
def map (f : Float → Float) (a : SignedDouble) : SignedDouble := result [a] (f a.value)

/-- An operation on two numbers. -/
def map₂ (f : Float → Float → Float) (a b : SignedDouble) : SignedDouble :=
  result [a, b] (f a.value b.value)

instance : Add SignedDouble := ⟨map₂ (· + ·)⟩
instance : Sub SignedDouble := ⟨map₂ (· - ·)⟩
instance : Mul SignedDouble := ⟨map₂ (· * ·)⟩
instance : Div SignedDouble := ⟨map₂ (· / ·)⟩
instance : Neg SignedDouble := ⟨fun a => ⟨-a.value, !a.negative⟩⟩
instance : LT SignedDouble := ⟨fun a b => a.value < b.value⟩
instance : LE SignedDouble := ⟨fun a b => a.value ≤ b.value⟩
instance : BEq SignedDouble := ⟨fun a b => a.value == b.value⟩
instance : OfScientific SignedDouble :=
  ⟨fun mantissa negative exponent => ofFloat (OfScientific.ofScientific mantissa negative exponent)⟩

/-- Geometry on doubles that keep their sign is that on doubles. -/
instance instScalar : Scalar SignedDouble where
  decLt a b := inferInstanceAs (Decidable (a.value < b.value))
  decLe a b := inferInstanceAs (Decidable (a.value ≤ b.value))
  ofNat n := ofFloat (Scalar.ofNat n)
  pi := ofFloat Scalar.pi
  magnitude a := ⟨Scalar.magnitude a.value, false⟩
  sqrt := map Scalar.sqrt
  sin := map Scalar.sin
  cos := map Scalar.cos
  atan := map Scalar.atan
  asin := map Scalar.asin
  atan2 := map₂ Scalar.atan2
  isFinite a := Scalar.isFinite a.value
  isInfinite a := Scalar.isInfinite a.value
  isNegative := negative

@[simp] theorem isNegative_eq (a : SignedDouble) : Scalar.isNegative a = a.negative := rfl

@[simp] theorem neg_negative (a : SignedDouble) : (-a).negative = !a.negative := rfl

end SignedDouble

end GreatCircle
