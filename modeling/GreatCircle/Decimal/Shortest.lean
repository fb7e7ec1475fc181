/-
# The shortest decimal that reads back

A double is the nearest one to every real number of a small interval around it.  Among the
decimals in that interval those with the fewest digits are looked for, and of these the one
nearest to the double is taken.
-/
import GreatCircle.Decimal.Binary

namespace GreatCircle

/-- A decimal number in its digits. -/
structure Digits where
  /-- The digits as one whole number. -/
  coefficient : Nat
  /-- How many digits there are. -/
  count : Nat
  /-- The power of ten of the leading digit. -/
  magnitude : Int
deriving DecidableEq, Repr

namespace Digits

/-- The real numbers that round to a double: those between two bounds.  The bounds belong to it
if the mantissa is even. -/
structure Interval where
  /-- The lower bound. -/
  low : Ratio
  /-- The upper bound. -/
  high : Ratio
  /-- The bounds belong to the interval. -/
  closed : Bool

/-- The interval of the double `mantissa * 2 ^ exponent`.  It reaches half way to the two
neighbours, and the lower neighbour is half as far where the leading one moves. -/
def Interval.ofBinary (mantissa : Nat) (exponent : Int) : Interval :=
  let below := if mantissa = Nat.pow 2 52 ∧ -1074 < exponent then 1 else 2
  let quarter := exponent - 2
  ⟨Ratio.scale ⟨4 * mantissa - below, 1⟩ 2 quarter, Ratio.scale ⟨4 * mantissa + 2, 1⟩ 2 quarter,
    mantissa % 2 = 0⟩

/-- The fraction lies in the interval. -/
def Interval.contains (i : Interval) (r : Ratio) : Bool :=
  if i.closed then !r.lt i.low && !i.high.lt r else i.low.lt r && r.lt i.high

/-- The decimal of `count` digits next to a value, if one of its two neighbours with so many
digits lies in the interval.  Of two the nearer is taken, and of two equally near the one
with the even last digit. -/
def ofCount? (value : Ratio) (interval : Interval) (magnitude : Int) (count : Nat) :
    Option Digits :=
  let unit : Int := magnitude + 1 - count
  let scaled := value.scale 10 (-unit)
  let low := scaled.num / scaled.den
  let fits (d : Nat) := interval.contains (Ratio.scale ⟨d, 1⟩ 10 unit)
  let choice :=
    if fits low && fits (low + 1) then some scaled.round
    else if fits low then some low
    else if fits (low + 1) then some (low + 1)
    else none
  choice.map fun d =>
    if d = Nat.pow 10 count then ⟨Nat.pow 10 (count - 1), count, magnitude + 1⟩
    else ⟨d, count, magnitude⟩

/-- The decimal of `count` digits nearest to a fraction that is not zero. -/
def nearest (value : Ratio) (count : Nat) : Digits :=
  let magnitude := value.magnitude
  let d := (value.scale 10 (count - 1 - magnitude)).round
  if d = Nat.pow 10 count then ⟨Nat.pow 10 (count - 1), count, magnitude + 1⟩
  else ⟨d, count, magnitude⟩

/-- The shortest decimal that reads back as the double `mantissa * 2 ^ exponent`, which is not
zero.  Seventeen digits always suffice. -/
def shortest (mantissa : Nat) (exponent : Int) : Digits :=
  let value := Ratio.scale ⟨mantissa, 1⟩ 2 exponent
  let interval := Interval.ofBinary mantissa exponent
  let magnitude := value.magnitude
  ((List.range 17).findSome? fun i => ofCount? value interval magnitude (i + 1)).getD
    (nearest value 17)

end Digits

end GreatCircle
