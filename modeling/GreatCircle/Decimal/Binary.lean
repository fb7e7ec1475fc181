/-
# What a double stands for

A finite double is a whole number times a power of two.  `Binary.ofFloat` reads both off its
bits, so that the printers of this folder can work on exact whole numbers.
-/
namespace GreatCircle

/-- The exact value of a double. -/
inductive Binary where
  /-- Not a number. -/
  | undefined
  /-- Infinity, with its sign. -/
  | infinite (negative : Bool)
  /-- The number `mantissa * 2 ^ exponent`, with its sign. -/
  | finite (negative : Bool) (mantissa : Nat) (exponent : Int)
deriving DecidableEq, Repr

namespace Binary

/-- The exact value of a double: one bit of sign, eleven of exponent, and a fraction of 52 bits
below a leading one, which only the smallest numbers lack. -/
def ofFloat (x : Float) : Binary :=
  let bits := x.toBits.toNat
  let negative := decide (Nat.pow 2 63 ≤ bits)
  let exponent := bits / Nat.pow 2 52 % Nat.pow 2 11
  let fraction := bits % Nat.pow 2 52
  if exponent = 2047 then
    if fraction = 0 then .infinite negative else .undefined
  else if exponent = 0 then .finite negative fraction (-1074)
  else .finite negative (Nat.pow 2 52 + fraction) (Int.ofNat exponent - 1075)

end Binary

/-- A positive fraction of two whole numbers. -/
structure Ratio where
  /-- What is divided. -/
  num : Nat
  /-- By what it is divided. -/
  den : Nat
deriving DecidableEq, Repr

namespace Ratio

/-- The fraction times a power of a base. -/
def scale (r : Ratio) (base : Nat) (power : Int) : Ratio :=
  match power with
  | .ofNat k => ⟨r.num * Nat.pow base k, r.den⟩
  | .negSucc k => ⟨r.num, r.den * Nat.pow base (k + 1)⟩

/-- The whole number nearest to the fraction; halves go to the even neighbour. -/
def round (r : Ratio) : Nat :=
  let q := r.num / r.den
  let twice := 2 * (r.num % r.den)
  if r.den < twice ∨ (r.den = twice ∧ q % 2 = 1) then q + 1 else q

/-- The first fraction is less than the second. -/
def lt (r s : Ratio) : Bool := decide (r.num * s.den < s.num * r.den)

/-- How many digits a whole number has; zero has one. -/
def digitCount (n : Nat) : Nat := (Nat.toDigits 10 n).length

/-- The position of the leading digit of a fraction that is not zero: the power `e` for which
it is at least `10 ^ e` and less than `10 ^ (e + 1)`. -/
def magnitude (r : Ratio) : Int :=
  if r.den ≤ r.num then digitCount (r.num / r.den) - 1
  else
    let guess : Int := -digitCount (r.den / r.num)
    if (r.scale 10 (-guess - 1)).lt ⟨1, 1⟩ then guess else guess + 1

end Ratio

end GreatCircle
