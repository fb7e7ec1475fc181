/-
# Trimmed texts

`Text.trim` takes the elements of a kind off both ends of a list, and `Text.strip` the white space
off a text.  What is left has none at its ends (`Text.noneAtEnds_trim`), and a list that has none is
left as it is (`Text.trim_eq_self_iff`).  Elements of the kind that are put around a list are taken
off again, whatever the list is (`Text.trim_padded`, `Text.strip_padded`).
-/
import Mathlib.Data.List.DropRight
import Mathlib.Data.List.TakeWhile
import GreatCircle.Text.Blank

namespace GreatCircle.Text

section Trim

variable {α : Type} {p : α → Bool} {xs before after : List α}

lemma trim_eq_rdropWhile (p : α → Bool) (xs : List α) :
    trim p xs = (xs.dropWhile p).rdropWhile p := rfl

lemma trim_subset (p : α → Bool) (xs : List α) : trim p xs ⊆ xs := by
  intro x hx
  rw [trim, List.mem_reverse] at hx
  exact List.dropWhile_subset p (List.mem_reverse.1 (List.dropWhile_subset p hx))

/-- Neither the first nor the last element of a list is of a kind. -/
structure NoneAtEnds (p : α → Bool) (xs : List α) : Prop where
  head : ∀ h : xs ≠ [], p (xs.head h) = false
  last : ∀ h : xs ≠ [], p (xs.getLast h) = false

lemma noneAtEnds_trim (p : α → Bool) (xs : List α) : NoneAtEnds p (trim p xs) := by
  rw [trim_eq_rdropWhile]
  constructor
  · intro h
    -- what is left at the end begins as what is left after the start
    have hinitial := List.rdropWhile_prefix p (xs.dropWhile p)
    rw [hinitial.head h]
    exact List.head_dropWhile_not p _
  · intro h
    simpa using List.rdropWhile_last_not p (xs.dropWhile p) h

/-- A list is left as it is just if there is nothing to take off. -/
lemma trim_eq_self_iff : trim p xs = xs ↔ NoneAtEnds p xs := by
  constructor
  · intro h
    rw [← h]
    exact noneAtEnds_trim p xs
  · rintro ⟨hhead, hlast⟩
    have hstart : xs.dropWhile p = xs := by
      cases xs with
      | nil => rfl
      | cons c rest =>
        have hc : p c = false := hhead (List.cons_ne_nil c rest)
        simp [hc]
    rw [trim_eq_rdropWhile, hstart, List.rdropWhile_eq_self_iff]
    intro h
    simp [hlast h]

@[simp] lemma trim_trim (p : α → Bool) (xs : List α) : trim p (trim p xs) = trim p xs :=
  trim_eq_self_iff.2 (noneAtEnds_trim p xs)

lemma rdropWhile_append_of_pos (hafter : ∀ c ∈ after, p c = true) (xs : List α) :
    (xs ++ after).rdropWhile p = xs.rdropWhile p := by
  have hreverse : ∀ c ∈ after.reverse, p c = true := by
    intro c hc
    exact hafter c (List.mem_reverse.1 hc)
  rw [List.rdropWhile, List.reverse_append, List.dropWhile_append_of_pos hreverse, List.rdropWhile]

/-- What is put around a list is taken off again. -/
lemma trim_padded (hbefore : ∀ c ∈ before, p c = true) (hafter : ∀ c ∈ after, p c = true)
    (xs : List α) : trim p (before ++ xs ++ after) = trim p xs := by
  rw [List.append_assoc, trim_eq_rdropWhile, List.dropWhile_append_of_pos hbefore,
    List.dropWhile_append, trim_eq_rdropWhile]
  split
  · rename_i hempty
    -- nothing but what was put around
    have hafterNil : after.dropWhile p = [] := List.dropWhile_eq_nil_iff.2 hafter
    rw [hafterNil, List.isEmpty_iff.1 hempty]
  · exact rdropWhile_append_of_pos hafter _

lemma noneAtEnds_append (hxs : xs ≠ []) (hhead : p (xs.head hxs) = false) {ys : List α}
    (hys : ys ≠ []) (hlast : p (ys.getLast hys) = false) : NoneAtEnds p (xs ++ ys) := by
  constructor
  · intro _
    rwa [List.head_append_of_ne_nil hxs]
  · intro _
    rwa [List.getLast_append_of_ne_nil _ hys]

end Trim

/-! ### White space -/

/-- A text that is nothing but white space. -/
structure Blank where
  /-- The text. -/
  text : Text
  /-- Every code point is white space. -/
  isBlank : ∀ c ∈ text.points, Text.isBlank c = true

/-- No white space. -/
def Blank.none : Blank := ⟨"", by simp [ofString, ofChars]⟩

lemma mk_eq_iff {xs : List CodePoint} {t : Text} : Text.mk xs = t ↔ xs = t.points :=
  ⟨fun h => congrArg points h, fun h => congrArg Text.mk h⟩

lemma strip_subset (t : Text) : t.strip.points ⊆ t.points := trim_subset isBlank t.points

/-- Nothing is left of a text just if all of it is white space. -/
lemma strip_eq_empty_iff {t : Text} : strip t = "" ↔ ∀ c ∈ t.points, isBlank c = true := by
  have hpoints : strip t = "" ↔ trim isBlank t.points = [] := mk_eq_iff
  rw [hpoints, trim, List.reverse_eq_nil_iff, List.dropWhile_eq_nil_iff]
  constructor
  · intro hrest
    -- what is left in front would begin with a code point that is not blank
    have hnil : t.points.dropWhile isBlank = [] := by
      by_contra hne
      have hhead := List.head_dropWhile_not isBlank hne
      have hblank := hrest _ (List.mem_reverse.2 (List.head_mem hne))
      rw [hhead] at hblank
      contradiction
    exact List.dropWhile_eq_nil_iff.1 hnil
  · intro hall c hc
    exact hall c (List.dropWhile_subset isBlank (List.mem_reverse.1 hc))

lemma strip_ne_empty_iff {t : Text} : strip t ≠ "" ↔ ∃ c ∈ t.points, isBlank c = false := by
  rw [ne_eq, strip_eq_empty_iff]
  simp

lemma strip_eq_self_iff {t : Text} : strip t = t ↔ NoneAtEnds isBlank t.points := by
  rw [← trim_eq_self_iff]
  exact mk_eq_iff

@[simp] lemma strip_strip (t : Text) : strip (strip t) = strip t :=
  congrArg Text.mk (trim_trim isBlank t.points)

/-- White space around a text counts for nothing. -/
lemma strip_padded (before after : Blank) (t : Text) :
    strip (before.text ++ t ++ after.text) = strip t :=
  congrArg Text.mk (trim_padded before.isBlank after.isBlank t.points)

lemma append_assoc (r s t : Text) : r ++ s ++ t = r ++ (s ++ t) :=
  congrArg Text.mk (List.append_assoc _ _ _)

lemma append_none (t : Text) : t ++ Blank.none.text = t := congrArg Text.mk (List.append_nil _)

lemma strip_blank_append (before : Blank) (t : Text) : strip (before.text ++ t) = strip t := by
  have hpadded := strip_padded before .none t
  rwa [append_none] at hpadded

lemma strip_append_blank (t : Text) (after : Blank) : strip (t ++ after.text) = strip t :=
  strip_padded .none after t

end GreatCircle.Text
