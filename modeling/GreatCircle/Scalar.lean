/-
# The numbers of the geometry

Every formula of the library is written once, over a type `α` of coordinates that is a
`Scalar`: it has the four operations, decimal literals, an order that can be tested, the
elementary functions, and three questions about a single number.  The program runs on
`Float`; the laws are stated over exact real numbers, where the same formulas hold without
rounding.

An order test with an undefined number is false, on either side.  This is why the
definitions below say which way round they compare.
-/
namespace GreatCircle

/-- The arithmetic that spherical geometry needs. -/
class Scalar (α : Type) extends
    Add α, Sub α, Mul α, Neg α, Div α, LT α, LE α, BEq α, OfScientific α where
  /-- Strict order can be tested. -/
  decLt : DecidableLT α
  /-- Order can be tested. -/
  decLe : DecidableLE α
  /-- A count as a number. -/
  ofNat : Nat → α
  /-- The ratio of a circle's circumference to its diameter. -/
  pi : α
  /-- Magnitude. -/
  magnitude : α → α
  /-- Square root. -/
  sqrt : α → α
  /-- Sine of an angle in radians. -/
  sin : α → α
  /-- Cosine of an angle in radians. -/
  cos : α → α
  /-- Inverse tangent, within a quarter turn of zero. -/
  atan : α → α
  /-- Inverse sine. -/
  asin : α → α
  /-- The angle, within half a turn of zero, of the point whose height is the first argument
  and whose abscissa is the second. -/
  atan2 : α → α → α
  /-- Neither infinite nor undefined. -/
  isFinite : α → Bool
  /-- Infinite, of either sign. -/
  isInfinite : α → Bool
  /-- The number carries a minus sign.  A zero may carry one. -/
  isNegative : α → Bool

namespace Scalar

instance instDecidableLT {α : Type} [Scalar α] : DecidableLT α := decLt

instance instDecidableLE {α : Type} [Scalar α] : DecidableLE α := decLe

/-- Double precision.  The circle constant is the double nearest to it. -/
instance instFloat : Scalar Float where
  decLt := inferInstance
  decLe := inferInstance
  ofNat := Float.ofNat
  pi := 3.141592653589793
  magnitude := Float.abs
  sqrt := Float.sqrt
  sin := Float.sin
  cos := Float.cos
  atan := Float.atan
  asin := Float.asin
  atan2 := Float.atan2
  isFinite := Float.isFinite
  isInfinite := Float.isInf
  isNegative x := x.toBits >>> 63 == 1

variable {α : Type} [Scalar α]

/-- Degrees to radians. -/
def radians (degrees : α) : α := degrees * (pi / 180.0)

/-- Radians to degrees. -/
def degrees (radians : α) : α := radians * (180.0 / pi)

/-- The magnitude `size` with the sign that `direction` carries. -/
def withSignOf (size direction : α) : α := if isNegative direction then -size else size

/-- The smaller of a bound and a number; the bound if the number is undefined. -/
def atMost (bound x : α) : α := if x < bound then x else bound

/-- The larger of a bound and a number; the bound if the number is undefined. -/
def atLeast (bound x : α) : α := if bound < x then x else bound

/-- A number moved to the nearest one of magnitude at most `limit`; an undefined number goes
to the upper end. -/
def clamp (limit x : α) : α := atLeast (-limit) (atMost limit x)

end Scalar

end GreatCircle
