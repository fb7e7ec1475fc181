/-
# Counts of steps in documents

The number of steps of an arc may come from a document, where it can be anything.
`StepCount.ofValue` takes a whole number that is at least one.
-/
import GreatCircle.Data.Value
import GreatCircle.Sphere.Sampling

namespace GreatCircle

/-- Why a value is no number of steps. -/
inductive CountFault where
  /-- It is no whole number. -/
  | notInteger (given : Value)
  /-- It is less than one. -/
  | tooSmall (given : Int)

/-- The wording of a fault. -/
def CountFault.message : CountFault → String
  | notInteger v => "Sample count must be an integer, got " ++ v.written ++ "."
  | tooSmall n => "Sample count must be at least 1, got " ++ toString n ++ "."

/-- The number of steps that a value stands for. -/
def StepCount.ofValue : Value → Except CountFault StepCount
  | .int n => if h : 1 ≤ n.toNat then .ok ⟨n.toNat, h⟩ else .error (.tooSmall n)
  | v => .error (.notInteger v)

end GreatCircle
