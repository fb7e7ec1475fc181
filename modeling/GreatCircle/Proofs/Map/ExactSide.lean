/-
# The sides of exact longitudes

Over the real numbers the side of a longitude can be read off its sign: between the antimeridian
and the prime meridian there is nothing but the west, between the prime meridian and the
antimeridian nothing but the east.
-/
import GreatCircle.Proofs.Exact
import GreatCircle.Proofs.Map.Placement

namespace GreatCircle

open Scalar

namespace Side

lemma seamSine_real (lon : ℝ) : seamSine lon = -Real.sin (radians lon) := by
  have hhalf : radians (lon + 180.0) = radians lon + Real.pi := by
    rw [radians_add, ← radians_half_turn]
    norm_num
  rw [seamSine, hhalf, sin_real, Real.sin_add_pi]

lemma seamSine_ne_zero {lon : ℝ} (h : ¬ |seamSine lon| < tieTolerance) : seamSine lon ≠ 0 := by
  intro hsine
  rw [hsine] at h
  norm_num [tieTolerance] at h

/-- Over the real numbers there are a west and an east side, and no third one. -/
lemma ofLongitude?_real (lon : ℝ) :
    ofLongitude? lon =
      if |seamSine lon| < tieTolerance then none
      else if 0 < seamSine lon then some west else some east := by
  have hzero : ((0.0 : ℝ) < seamSine lon ↔ 0 < seamSine lon) ∧
      (seamSine lon < (0.0 : ℝ) ↔ seamSine lon < 0) := by norm_num
  unfold ofLongitude?
  dsimp only
  rw [magnitude_real]
  simp only [hzero]
  split
  · rfl
  · rename_i hmag
    split
    · rfl
    · rename_i hpos
      rw [if_pos (lt_of_le_of_ne (not_lt.1 hpos) (seamSine_ne_zero hmag))]

/-- What the sign of the sine says about a longitude that is no tie. -/
lemma seamSine_of_ofLongitude? {lon : ℝ} {s : Side} (h : ofLongitude? lon = some s) :
    (s = west ∧ 0 < seamSine lon) ∨ (s = east ∧ seamSine lon < 0) := by
  rw [ofLongitude?_real] at h
  split at h
  · contradiction
  · rename_i hmag
    split at h
    · exact Or.inl ⟨(Option.some.inj h).symm, by assumption⟩
    · rename_i hpos
      exact Or.inr ⟨(Option.some.inj h).symm,
        lt_of_le_of_ne (not_lt.1 hpos) (seamSine_ne_zero hmag)⟩

lemma radians_mem {lon : ℝ} (h : -180 ≤ lon ∧ lon ≤ 180) :
    -Real.pi ≤ radians lon ∧ radians lon ≤ Real.pi := by
  rw [← radians_half_turn, ← radians_neg, radians_le_radians, radians_le_radians]
  exact h

/-- A longitude of the map with a side of its own is negative in the west and positive in the
east. -/
lemma lon_of_ofLongitude? {lon : ℝ} (hlon : -180 ≤ lon ∧ lon ≤ 180) {s : Side}
    (h : ofLongitude? lon = some s) : (s = west ∧ lon < 0) ∨ (s = east ∧ 0 < lon) := by
  obtain ⟨hlow, hhigh⟩ := radians_mem hlon
  rcases seamSine_of_ofLongitude? h with ⟨rfl, hsine⟩ | ⟨rfl, hsine⟩
  · refine Or.inl ⟨rfl, lt_of_not_ge fun hge => ?_⟩
    have hnonneg := Real.sin_nonneg_of_nonneg_of_le_pi
      (by rwa [← radians_zero, radians_le_radians]) hhigh
    rw [seamSine_real] at hsine
    linarith
  · refine Or.inr ⟨rfl, lt_of_not_ge fun hle => ?_⟩
    have hnonpos := Real.sin_nonpos_of_nonpos_of_neg_pi_le
      (by rwa [← radians_zero, radians_le_radians]) hlow
    rw [seamSine_real] at hsine
    linarith

/-- A quarter turn from the prime meridian one is as far from the ties as can be. -/
lemma ofLongitude?_quarter_turn :
    ofLongitude? (90 : ℝ) = some east ∧ ofLongitude? (-90 : ℝ) = some west := by
  constructor <;>
    norm_num [ofLongitude?_real, seamSine_real, radians_neg, radians_quarter_turn, tieTolerance]

/-- The meridians themselves are ties. -/
lemma ofLongitude?_meridians :
    ofLongitude? (0 : ℝ) = none ∧ ofLongitude? (180 : ℝ) = none ∧
      ofLongitude? (-180 : ℝ) = none := by
  refine ⟨?_, ?_, ?_⟩ <;> norm_num [ofLongitude?_real, seamSine_real, radians_neg, tieTolerance]

end Side

/-- A crossing over exact numbers: a step of half a turn or more, to the other side or beside a
tie. -/
lemma Placed.crosses_real {a b : Placed ℝ} :
    a.crosses b = true ↔ 180 ≤ |b.point.lon - a.point.lon| ∧
      (a.side.isOpposite b.side ∨ a.isTie ∨ b.isTie) := by
  simp only [Placed.crosses, Bool.and_eq_true, decide_eq_true_eq, Bool.or_eq_true, magnitude_real,
    or_assoc]
  norm_num

end GreatCircle
