/-
# Blank characters

`isBlank` holds of the characters that count as white space: the separators of Unicode, the
control characters that break or space a line, and the four information separators.
`strip` takes them off both ends of a text.
-/
import GreatCircle.Text.Basic

namespace GreatCircle.Text

/-- White space. -/
def isBlank (c : CodePoint) : Bool :=
  let n := c.val
  decide ((0x9 ≤ n ∧ n ≤ 0xD) ∨ (0x1C ≤ n ∧ n ≤ 0x20) ∨ n = 0x85 ∨ n = 0xA0 ∨ n = 0x1680 ∨
    (0x2000 ≤ n ∧ n ≤ 0x200A) ∨ n = 0x2028 ∨ n = 0x2029 ∨ n = 0x202F ∨ n = 0x205F ∨ n = 0x3000)

/-- The list without the elements of a kind at its start and at its end. -/
def trim {α : Type} (p : α → Bool) (xs : List α) : List α :=
  ((xs.dropWhile p).reverse.dropWhile p).reverse

/-- The text without the white space at its ends. -/
def strip (t : Text) : Text := ⟨trim isBlank t.points⟩

/-- The characters that core counts as white space are blank. -/
theorem isBlank_of_isWhitespace {c : Char} (h : c.isWhitespace = true) : isBlank c = true := by
  simp only [Char.isWhitespace, Bool.or_eq_true, decide_eq_true_eq] at h
  rcases h with ((rfl | rfl) | rfl) | rfl <;> rfl

end GreatCircle.Text
