/-
# What the seam asks of numbers

The rules for ties speak of the prime meridian, which is written 0, and of the antimeridian, which
is written -180 in the west and 180 in the east (`Side.seamLon`).  For these rules to make sense the
numbers have to obey a few laws: the meridians are ties themselves, a longitude with a side is on
that side's half of the map, and from one half of the map to the other half's antimeridian the step
counts as long.

`SeamLaws` lists them; `ShortSteps` adds that within one half of the map the only step that counts as
long is the one between its ends.  They hold for exact real numbers (`SeamLaws.real`,
`ShortSteps.real`).  Rounding does not break them either, as long as it keeps the order, does not
round a side away, and the sine of a multiple of half a turn stays below the tolerance; so what is
proved from the laws alone is not only about exact numbers.
-/
import GreatCircle.Proofs.Map.ExactSide

namespace GreatCircle

open Scalar

section Halves

variable {α : Type} [Scalar α]

/-- The longitude is on the half of the map that belongs to a side.  The prime meridian is on
both. -/
def Side.OnHalf : Side → α → Prop
  | .west, lon => lon ≤ 0.0
  | .east, lon => 0.0 ≤ lon
  | .undefined, _ => False

/-- What the rules for ties rely on. -/
class SeamLaws (α : Type) [Scalar α] : Prop where
  /-- The prime meridian is a tie. -/
  isTie_zero : IsTie (0.0 : α)
  /-- The antimeridian is a tie, in either spelling. -/
  isTie_seam : ∀ side : Side, IsTie (side.seamLon : α)
  /-- The prime meridian is within a quarter turn of itself. -/
  zero_near : magnitude (0.0 : α) ≤ 90.0
  /-- The antimeridian is not. -/
  seam_not_near : ∀ side : Side, ¬ magnitude (side.seamLon : α) ≤ 90.0
  seam_far : ∀ side : Side, 90.0 < magnitude (side.seamLon : α)
  /-- The two spellings of the antimeridian are told apart by their sign. -/
  west_neg : (Side.west.seamLon : α) < 0.0
  east_not_neg : ¬ (Side.east.seamLon : α) < 0.0
  /-- The prime meridian is on both halves of the map. -/
  onHalf_zero : ∀ side : Side, side ≠ .undefined → side.OnHalf (0.0 : α)
  /-- Each spelling of the antimeridian is on its own half. -/
  onHalf_seam : ∀ side : Side, side ≠ .undefined → side.OnHalf (side.seamLon : α)
  /-- A longitude of the map that has a side is on that side's half. -/
  onHalf_of_side : ∀ {lon : α} {side : Side}, -180.0 ≤ lon → lon ≤ 180.0 →
    Side.ofLongitude? lon = some side → side.OnHalf lon
  /-- From one half of the map to the other half's antimeridian it is half a turn or more. -/
  seam_step : ∀ {lon : α} {side other : Side}, side.OnHalf lon → side.isOpposite other = true →
    180.0 ≤ magnitude (lon - other.seamLon) ∧ 180.0 ≤ magnitude (other.seamLon - lon)

section Laws

variable [SeamLaws α]

lemma Placed.snapLongitude_zero (side : Side) : snapLongitude side (0.0 : α) = 0.0 := by
  rw [snapLongitude_eq, if_pos SeamLaws.zero_near]

lemma Placed.snapLongitude_seamLon (side other : Side) :
    snapLongitude side (other.seamLon : α) = side.seamLon := by
  rw [snapLongitude_eq, if_neg (SeamLaws.seam_not_near other)]

end Laws

/-- Sides that are two of west and east are the same or opposite. -/
lemma Side.eq_or_isOpposite {s t : Side} (hs : s ≠ .undefined) (ht : t ≠ .undefined) :
    s = t ∨ s.isOpposite t = true := by
  cases s <;> cases t <;> simp_all [isOpposite]

/-- The meridians at the ends of a side's half of the map. -/
def Side.IsEdge (side : Side) (m : α) : Prop := m = 0.0 ∨ m = side.seamLon

/-- What is said of short steps: from one point of a half to another one it is less than half a turn,
unless the two are the meridians at its ends. -/
class ShortSteps (α : Type) [Scalar α] : Prop extends SeamLaws α where
  /-- It is no step from a meridian to itself. -/
  short_stay : ∀ {m : α} {side : Side}, side.IsEdge m → ¬ 180.0 ≤ magnitude (m - m)
  /-- A longitude of the map that has a side is not as far as half a turn from either end. -/
  short_edge : ∀ {lon m : α} {side : Side}, -180.0 ≤ lon → lon ≤ 180.0 →
    Side.ofLongitude? lon = some side → side.IsEdge m →
    ¬ 180.0 ≤ magnitude (lon - m) ∧ ¬ 180.0 ≤ magnitude (m - lon)

/-- From one end of a half to the other it is half a turn. -/
lemma SeamLaws.long_across [SeamLaws α] {side : Side} (h : side ≠ .undefined) :
    180.0 ≤ magnitude ((0.0 : α) - side.seamLon) ∧ 180.0 ≤ magnitude ((side.seamLon : α) - 0.0) := by
  -- the prime meridian is on the other half, too
  cases side with
  | west => exact seam_step (onHalf_zero .east (by simp)) rfl
  | east => exact seam_step (onHalf_zero .west (by simp)) rfl
  | undefined => contradiction

end Halves

/-- Exact numbers obey the laws. -/
instance SeamLaws.real : SeamLaws ℝ where
  isTie_zero := by
    norm_num [IsTie, Side.seamSine_real, Side.tieTolerance]
  isTie_seam side := by
    cases side <;>
      norm_num [IsTie, Side.seamLon, Side.seamSine_real, radians_neg, Side.tieTolerance]
  zero_near := by norm_num
  seam_not_near side := by cases side <;> norm_num [Side.seamLon]
  seam_far side := by cases side <;> norm_num [Side.seamLon]
  west_neg := by norm_num [Side.seamLon]
  east_not_neg := by norm_num [Side.seamLon]
  onHalf_zero side hside := by
    cases side <;> simp_all [Side.OnHalf]
  onHalf_seam side hside := by
    cases side
    · norm_num [Side.OnHalf, Side.seamLon]
    · norm_num [Side.OnHalf, Side.seamLon]
    · contradiction
  onHalf_of_side := by
    intro lon side hlow hhigh hside
    norm_num at hlow hhigh
    rcases Side.lon_of_ofLongitude? ⟨hlow, hhigh⟩ hside with ⟨rfl, hlon⟩ | ⟨rfl, hlon⟩
    · norm_num [Side.OnHalf]
      exact hlon.le
    · norm_num [Side.OnHalf]
      exact hlon.le
  seam_step := by
    intro lon side other hhalf hopposite
    cases side <;> cases other <;> try contradiction
    · norm_num [Side.OnHalf, Side.seamLon] at hhalf ⊢
      rw [abs_of_nonpos (by linarith), abs_of_nonneg (by linarith)]
      constructor <;> linarith
    · norm_num [Side.OnHalf, Side.seamLon] at hhalf ⊢
      rw [abs_of_nonneg (by linarith), abs_of_nonpos (by linarith)]
      constructor <;> linarith

instance ShortSteps.real : ShortSteps ℝ where
  short_stay := by
    intro m side _
    rw [magnitude_real, sub_self, abs_zero]
    norm_num
  short_edge := by
    intro lon m side hlow hhigh hside hedge
    norm_num at hlow hhigh
    -- the longitude is not the antimeridian, since that has no side
    have hne (other : Side) : lon ≠ other.seamLon := by
      rintro rfl
      rw [Side.ofLongitude?_eq_none_iff.2 (SeamLaws.isTie_seam other)] at hside
      contradiction
    have heast : lon < 180 := by
      refine lt_of_le_of_ne hhigh ?_
      have := hne .east
      norm_num [Side.seamLon] at this
      exact this
    have hwest : -180 < lon := by
      refine lt_of_le_of_ne hlow (Ne.symm ?_)
      have := hne .west
      norm_num [Side.seamLon] at this
      exact this
    have hshort : |lon - m| < 180 := by
      rw [abs_lt]
      rcases Side.lon_of_ofLongitude? ⟨hlow, hhigh⟩ hside with ⟨rfl, hlon⟩ | ⟨rfl, hlon⟩ <;>
        rcases hedge with rfl | rfl <;> norm_num [Side.seamLon] <;> constructor <;> linarith
    rw [magnitude_real, magnitude_real, abs_sub_comm m lon]
    norm_num
    exact hshort

end GreatCircle
