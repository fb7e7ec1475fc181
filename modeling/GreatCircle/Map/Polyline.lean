/-
# Lines cut at the antimeridian

A `Polyline` is a line that can be drawn: it has at least two points.  `splitAtSeam` cuts a
line after every crossing, or after the first one only, and keeps the pieces that can be
drawn.  Nothing is lost but isolated points, and the pieces come in order.
-/
import GreatCircle.Map.Crossing

namespace GreatCircle

/-- Where a line is cut. -/
inductive SplitMode where
  /-- After every crossing. -/
  | all
  /-- After the first crossing only. -/
  | first
deriving DecidableEq, Repr

namespace SplitMode

/-- The crossings at which a line is cut. -/
def cuts : SplitMode → List Nat → List Nat
  | all, crossings => crossings
  | first, crossings => crossings.take 1

end SplitMode

/-- A line on the map with something to draw. -/
structure Polyline (α : Type) where
  /-- The points in order. -/
  points : List (MapPoint α)
  /-- A line runs between at least two points. -/
  two_le : 2 ≤ points.length
deriving DecidableEq, Repr

namespace Polyline

variable {α : Type}

/-- The line through the given points, if they are two or more. -/
def ofPoints? (points : List (MapPoint α)) : Option (Polyline α) :=
  if h : 2 ≤ points.length then some ⟨points, h⟩ else none

/-- The line through points that come as rows of numbers. -/
def ofRows (rows : List (List α)) : Except RowFault (Polyline α) := do
  match ofPoints? (← MapPoint.ofRows rows) with
  | some line => return line
  | none => throw .tooFewRows

@[simp] theorem ofPoints?_points (line : Polyline α) : ofPoints? line.points = some line := by
  simp [ofPoints?, line.two_le]

theorem ofPoints?_eq_some_iff {points : List (MapPoint α)} {line : Polyline α} :
    ofPoints? points = some line ↔ line.points = points := by
  constructor
  · intro h
    unfold ofPoints? at h
    split at h
    · cases h
      rfl
    · contradiction
  · rintro rfl
    exact ofPoints?_points line

end Polyline

/-- A list cut after the given positions, which are counted from `start` and increase. -/
def segmentsFrom {β : Type} (start : Nat) (items : List β) : List Nat → List (List β)
  | [] => [items]
  | cut :: cuts =>
    items.take (cut + 1 - start) :: segmentsFrom (cut + 1) (items.drop (cut + 1 - start)) cuts

/-- A list cut after the given positions. -/
def segments {β : Type} (items : List β) (cuts : List Nat) : List (List β) :=
  segmentsFrom 0 items cuts

/-- Cutting neither loses nor reorders anything. -/
theorem flatten_segmentsFrom {β : Type} (start : Nat) (items : List β) (cuts : List Nat) :
    (segmentsFrom start items cuts).flatten = items := by
  induction cuts generalizing start items with
  | nil => simp [segmentsFrom]
  | cons cut cuts ih => simp [segmentsFrom, ih]

@[simp] theorem flatten_segments {β : Type} (items : List β) (cuts : List Nat) :
    (segments items cuts).flatten = items :=
  flatten_segmentsFrom 0 items cuts

/-- The pieces of a line between its cuts, isolated points included. -/
def seamPieces {α : Type} [Scalar α] (mode : SplitMode) (points : List (MapPoint α)) :
    List (List (MapPoint α)) :=
  let placed := Placed.ofPoints points
  segments (placed.map Placed.point) (mode.cuts (Placed.crossings placed))

/-- The drawable pieces of a line that is cut where it crosses the antimeridian. -/
def splitAtSeam {α : Type} [Scalar α] (mode : SplitMode) (points : List (MapPoint α)) :
    List (Polyline α) :=
  (seamPieces mode points).filterMap Polyline.ofPoints?

end GreatCircle
