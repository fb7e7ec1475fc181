/-
# Code points

A `CodePoint` is a place in the table of characters.  Nearly all places hold a character.  Those
of the halves hold none: two halves together code a character beyond sixteen bits, but documents
can name a half on its own.
-/
namespace GreatCircle

/-- A place in the table of characters. -/
structure CodePoint where
  /-- The number of the place. -/
  val : Nat
  /-- The table ends here. -/
  lt : val < 0x110000
deriving DecidableEq, Repr

namespace CodePoint

/-- The place of a character. -/
def ofChar (c : Char) : CodePoint where
  val := c.toNat
  lt := by
    have h := c.valid
    simp only [UInt32.isValidChar, Nat.isValidChar] at h
    simp only [Char.toNat]
    omega

instance : Coe Char CodePoint := ⟨ofChar⟩

/-- The place of a number, if the table reaches so far. -/
def ofNat? (n : Nat) : Option CodePoint := if h : n < 0x110000 then some ⟨n, h⟩ else none

/-- The first or the second half of a pair. -/
def isHalf (c : CodePoint) : Bool := decide (0xD800 ≤ c.val ∧ c.val < 0xE000)

/-- The character at a place; a half is none. -/
def char? (c : CodePoint) : Option Char := if c.isHalf then none else some (Char.ofNat c.val)

@[simp] theorem val_ofChar (c : Char) : (ofChar c).val = c.toNat := rfl

@[simp] theorem isHalf_ofChar (c : Char) : (ofChar c).isHalf = false := by
  have h := c.valid
  simp only [UInt32.isValidChar, Nat.isValidChar] at h
  have : ¬ (0xD800 ≤ c.toNat ∧ c.toNat < 0xE000) := by
    simp only [Char.toNat]
    omega
  exact decide_eq_false this

@[simp] theorem char?_ofChar (c : Char) : (ofChar c).char? = some c := by
  simp [char?]

end CodePoint

end GreatCircle
