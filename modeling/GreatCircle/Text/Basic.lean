/-
# Texts

A `Text` is a list of code points.  It is what documents, variables and arguments hold and what
messages are made of.  A string is a text all of whose code points are characters, and it counts
as a text wherever one is wanted; `Text.string?` is the way back.
-/
import GreatCircle.Text.CodePoint

namespace GreatCircle

/-- A list of code points. -/
structure Text where
  /-- The code points, in order. -/
  points : List CodePoint
deriving DecidableEq, Repr

namespace Text

/-- The text of a list of characters. -/
def ofChars (cs : List Char) : Text := ⟨cs.map CodePoint.ofChar⟩

/-- The text of a string. -/
def ofString (s : String) : Text := ofChars s.toList

instance : Coe String Text := ⟨ofString⟩

/-- One text after the other. -/
def append (s t : Text) : Text := ⟨s.points ++ t.points⟩

instance : Append Text := ⟨append⟩

/-- The text has no code points. -/
def isEmpty (t : Text) : Bool := t.points.isEmpty

/-- Texts with another one between them. -/
def intercalate (separator : Text) (parts : List Text) : Text :=
  ⟨separator.points.intercalate (parts.map points)⟩

/-- The characters of a text; none if it holds a half. -/
def chars? (t : Text) : Option (List Char) := t.points.mapM CodePoint.char?

/-- The string of a text; none if it holds a half. -/
def string? (t : Text) : Option String := t.chars?.map String.ofList

/-- The numbers of the code points.  Texts are put in order by these. -/
def codes (t : Text) : List Nat := t.points.map CodePoint.val

@[simp] theorem points_append (s t : Text) : (s ++ t).points = s.points ++ t.points := rfl

@[simp] theorem chars?_ofChars (cs : List Char) : (ofChars cs).chars? = some cs := by
  induction cs with
  | nil => rfl
  | cons c rest ih =>
    simp only [chars?, ofChars, List.map_cons, List.mapM_cons, CodePoint.char?_ofChar] at ih ⊢
    simp [ih]

@[simp] theorem string?_ofString (s : String) : (ofString s).string? = some s := by
  simp [string?, ofString]

theorem ofString_injective {s t : String} (h : ofString s = ofString t) : s = t := by
  have := congrArg string? h
  simpa using this

end Text

end GreatCircle
