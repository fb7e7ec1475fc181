/-
# Decimals as doubles

`Decimal.toFloat` is the double nearest to a decimal number; a number too large for any
double becomes infinity, one too small becomes zero.
-/
import GreatCircle.Decimal.Binary

namespace GreatCircle

/-- The number `coefficient * 10 ^ power`, with its sign. -/
structure Decimal where
  /-- The number is below zero, or is a zero that carries a minus sign. -/
  negative : Bool
  /-- The digits as one whole number. -/
  coefficient : Nat
  /-- The power of ten of the last digit. -/
  power : Int
deriving DecidableEq, Repr

namespace Decimal

/-- The double nearest to a whole number times a power of ten.  Powers far outside the range of
doubles are settled without computing them. -/
def magnitudeToFloat (coefficient : Nat) (power : Int) : Float :=
  let leading := power + Ratio.digitCount coefficient
  if coefficient = 0 ∨ leading < -400 then 0.0
  else if 400 < leading then 1.0 / 0.0
  else match power with
    | .ofNat k => Float.ofScientific coefficient false k
    | .negSucc k => Float.ofScientific coefficient true (k + 1)

/-- The double nearest to a decimal. -/
def toFloat (d : Decimal) : Float :=
  let x := magnitudeToFloat d.coefficient d.power
  if d.negative then -x else x

/-- The double nearest to a whole number, if there is one: numbers that would round to infinity
have none. -/
def ofInt? (n : Int) : Option Float :=
  let x := magnitudeToFloat n.natAbs 0
  if x.isInf then none else some (if n < 0 then -x else x)

end Decimal

end GreatCircle
