/-
# Doubles as text

Three ways to write a double.  `NumberFormat.shortest` writes the fewest digits that read
back, `NumberFormat.fixed` a given number of places after the point, and
`NumberFormat.scientific` a given number of places and a power of ten.  All are correctly
rounded, halves to even.  A `NumberFormat` holds the decisions that are left.
-/
import GreatCircle.Decimal.Shortest

namespace GreatCircle

/-- How doubles are laid out. -/
structure NumberFormat where
  /-- The text of an undefined number. -/
  undefined : String
  /-- The text of infinity, without a sign. -/
  infinity : String
  /-- The lowest power of ten of a leading digit for which the shortest form is written out. -/
  writtenOutFrom : Int := -4
  /-- The first power of ten of a leading digit for which it no longer is. -/
  writtenOutBelow : Int := 16

namespace NumberFormat

/-- The minus sign of a negative number. -/
def sign (negative : Bool) : String := if negative then "-" else ""

/-- The digits of a whole number, with zeros in front up to a width. -/
def padded (width n : Nat) : List Char :=
  let digits := Nat.toDigits 10 n
  List.replicate (width - digits.length) '0' ++ digits

/-- A number with its point after the first `whole` of its digits. -/
def pointed (whole : Nat) (digits : List Char) : String :=
  String.ofList (digits.take whole ++ '.' :: digits.drop whole)

/-- A power of ten: its sign and at least two digits. -/
def exponent (e : Int) : String :=
  "e" ++ (if e < 0 then "-" else "+") ++ String.ofList (padded 2 e.natAbs)

/-- A decimal without its sign.  Numbers of moderate size are written out, with a zero for
every empty place and at least one place after the point; others get a power of ten. -/
def ofDigits (format : NumberFormat) (d : Digits) : String :=
  let digits := padded d.count d.coefficient
  if format.writtenOutFrom ≤ d.magnitude ∧ d.magnitude < format.writtenOutBelow then
    match d.magnitude with
    | .ofNat e => pointed (e + 1) (digits ++ List.replicate (e + 2 - d.count) '0')
    | .negSucc k => pointed 1 (List.replicate (k + 1) '0' ++ digits)
  else
    (match digits with
      | [digit] => String.ofList [digit]
      | _ => pointed 1 digits) ++ exponent d.magnitude

/-- The fewest digits that read back as the double. -/
def shortest (format : NumberFormat) (x : Float) : String :=
  match Binary.ofFloat x with
  | .undefined => format.undefined
  | .infinite negative => sign negative ++ format.infinity
  | .finite negative m e =>
    sign negative ++ (if m = 0 then "0.0" else format.ofDigits (Digits.shortest m e))

/-- A double with `places` digits after the point, and no point if there are none. -/
def fixed (format : NumberFormat) (places : Nat) (x : Float) : String :=
  match Binary.ofFloat x with
  | .undefined => format.undefined
  | .infinite negative => sign negative ++ format.infinity
  | .finite negative m e =>
    let digits := padded (places + 1) ((Ratio.scale ⟨m, 1⟩ 2 e).scale 10 places).round
    sign negative ++
      if places = 0 then String.ofList digits else pointed (digits.length - places) digits

/-- A double with one digit before the point, `places` digits after it, and a power of ten. -/
def scientific (format : NumberFormat) (places : Nat) (x : Float) : String :=
  match Binary.ofFloat x with
  | .undefined => format.undefined
  | .infinite negative => sign negative ++ format.infinity
  | .finite negative m e =>
    let d : Digits :=
      if m = 0 then ⟨0, places + 1, 0⟩
      else Digits.nearest (Ratio.scale ⟨m, 1⟩ 2 e) (places + 1)
    sign negative ++ pointed 1 (padded d.count d.coefficient) ++ exponent d.magnitude

end NumberFormat

end GreatCircle
