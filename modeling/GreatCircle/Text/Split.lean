/-
# Cutting a text at a mark

`splitOn` cuts a text at every occurrence of a character.  The pieces are one more than the
occurrences.
-/
namespace GreatCircle.Text

/-- The pieces of a text between the occurrences of a character. -/
def splitOn {α : Type} [DecidableEq α] (mark : α) : List α → List (List α)
  | [] => [[]]
  | c :: rest =>
    if c = mark then [] :: splitOn mark rest
    else match splitOn mark rest with
      | piece :: more => (c :: piece) :: more
      | [] => [[c]]

theorem splitOn_ne_nil {α : Type} [DecidableEq α] (mark : α) (xs : List α) :
    splitOn mark xs ≠ [] := by
  cases xs with
  | nil => simp [splitOn]
  | cons c rest =>
    unfold splitOn
    split
    · simp
    · split <;> simp

/-- What follows the first occurrence of a character, and what comes before it. -/
def cutAt? {α : Type} [DecidableEq α] (mark : α) (xs : List α) : Option (List α × List α) :=
  match xs.dropWhile (· != mark) with
  | [] => none
  | _ :: after => some (xs.takeWhile (· != mark), after)

end GreatCircle.Text
