/-
# Lines that go one way round

The longitudes of the map wrap: a line that goes on to the east passes from 180 to -180.  Unwound
longitudes do not; they may leave the map, and tell how far a line has gone round (`Unwinds`).

A line whose unwound longitudes run one way, by half a turn at most, crosses the antimeridian once
at most (`length_seamCrossings_le_one`), and its pieces run that way too
(`sorted_or_sorted_of_splitAtSeam`).  The ties do not change this: moving them onto their
meridian keeps the line running one way (`Unwinds.snapped`).
-/
import Mathlib.Order.Monotone.Basic
import Mathlib.Data.List.Sort
import GreatCircle.Proofs.Map.NearestMeridian
import GreatCircle.Proofs.Map.SeamStep

namespace GreatCircle

open Scalar

/-- Numbers `u 0`, `u 1`, … that are longitudes of a line, unwound: they differ from the longitudes
on the map by whole turns, and from each other by at most half a turn. -/
structure Unwinds (lons : List ℝ) (u : ℕ → ℝ) : Prop where
  onMap : ∀ lon ∈ lons, |lon| ≤ 180
  turns : ∀ {i : ℕ} {lon : ℝ}, lons[i]? = some lon → ∃ k : ℤ, lon = u i + 360 * k
  /-- The antimeridian is spelled in one way only. -/
  spelling : ∀ {i j : ℕ} {a b : ℝ}, lons[i]? = some a → lons[j]? = some b → u i = u j → a = b
  half_turn : ∀ {i j : ℕ}, i < lons.length → j < lons.length → |u j - u i| ≤ 180

/-- The step after position `i` is half a turn or more. -/
structure IsLongStep (lons : List ℝ) (i : ℕ) : Prop where
  exists_ends : ∃ a b, lons[i]? = some a ∧ lons[i + 1]? = some b ∧ 180 ≤ |b - a|

/-- The mirror image of a long step is long. -/
lemma IsLongStep.neg {lons : List ℝ} {i : ℕ} (h : IsLongStep lons i) :
    IsLongStep (lons.map Neg.neg) i := by
  obtain ⟨a, b, ha, hb, hlong⟩ := h
  refine ⟨-a, -b, ?_, ?_, ?_⟩
  · rw [List.getElem?_map, ha, Option.map_some]
  · rw [List.getElem?_map, hb, Option.map_some]
  · rwa [neg_sub_neg, abs_sub_comm]

namespace Unwinds

variable {lons : List ℝ} {u : ℕ → ℝ} (h : Unwinds lons u)
include h

/-- The mirror image of a line. -/
lemma neg : Unwinds (lons.map Neg.neg) (-u) := by
  refine ⟨?_, ?_, ?_, ?_⟩
  · intro lon hlon
    obtain ⟨a, ha, rfl⟩ := List.mem_map.1 hlon
    rw [abs_neg]
    exact h.onMap a ha
  · intro i lon hlon
    rw [List.getElem?_map, Option.map_eq_some_iff] at hlon
    obtain ⟨a, ha, rfl⟩ := hlon
    obtain ⟨k, hk⟩ := h.turns ha
    refine ⟨-k, ?_⟩
    rw [hk, Pi.neg_apply]
    push_cast
    ring
  · intro i j a b ha hb hu
    rw [List.getElem?_map, Option.map_eq_some_iff] at ha hb
    obtain ⟨a, ha, rfl⟩ := ha
    obtain ⟨b, hb, rfl⟩ := hb
    rw [h.spelling ha hb (neg_injective hu)]
  · intro i j hi hj
    rw [List.length_map] at hi hj
    rw [Pi.neg_apply, Pi.neg_apply, neg_sub_neg, abs_sub_comm]
    exact h.half_turn hi hj

section East

variable (hu : MonotoneOn u (Set.Iio lons.length))
include hu

/-- Going east one passes from a longitude to a later one on the map directly, or once over the
antimeridian. -/
lemma step_east {i j : ℕ} (hij : i ≤ j) {a b : ℝ} (ha : lons[i]? = some a)
    (hb : lons[j]? = some b) :
    u i ≤ u j ∧ u j ≤ u i + 180 ∧
      (b - a = u j - u i ∨ u i < u j ∧ b - a = u j - u i - 360) := by
  have hi := (List.getElem?_eq_some_iff.1 ha).1
  have hj := (List.getElem?_eq_some_iff.1 hb).1
  have hle : u i ≤ u j := hu hi hj hij
  have hhalf := (abs_le.1 (h.half_turn hi hj)).2
  obtain ⟨ha₁, ha₂⟩ := abs_le.1 (h.onMap a (List.mem_of_getElem? ha))
  obtain ⟨hb₁, hb₂⟩ := abs_le.1 (h.onMap b (List.mem_of_getElem? hb))
  refine ⟨hle, by linarith, ?_⟩
  rcases hle.eq_or_lt with heq | hlt
  · left
    rw [h.spelling ha hb heq, heq]
    ring
  · obtain ⟨k, hk⟩ := h.turns ha
    obtain ⟨l, hl⟩ := h.turns hb
    -- the difference is between -360 and 360, so one turn back is all that fits
    have hlow : (-2 : ℤ) < l - k := by
      have : (-2 : ℝ) < l - k := by linarith
      exact_mod_cast this
    have hhigh : l - k < (1 : ℤ) := by
      have : (l - k : ℝ) < 1 := by linarith
      exact_mod_cast this
    obtain hturn | hturn : l - k = 0 ∨ l - k = -1 := by omega
    · left
      have : (l - k : ℝ) = 0 := by exact_mod_cast hturn
      linarith
    · right
      have : (l - k : ℝ) = -1 := by exact_mod_cast hturn
      exact ⟨hlt, by linarith⟩

/-- A short step to the east leads to a larger longitude. -/
lemma le_of_short_east {i : ℕ} {a b : ℝ} (ha : lons[i]? = some a) (hb : lons[i + 1]? = some b)
    (hshort : |b - a| < 180) : a ≤ b := by
  obtain ⟨hle, hhalf, hstep⟩ := h.step_east hu i.le_succ ha hb
  obtain ⟨hlow, -⟩ := abs_lt.1 hshort
  rcases hstep with hstep | ⟨-, hstep⟩
  · linarith
  · linarith

/-- A long step to the east is just half a turn, or it passes over the antimeridian. -/
lemma long_step_east {i : ℕ} {a b : ℝ} (ha : lons[i]? = some a) (hb : lons[i + 1]? = some b)
    (hlong : 180 ≤ |b - a|) :
    u i < u (i + 1) ∧ (u (i + 1) = u i + 180 ∨ b - a = u (i + 1) - u i - 360) := by
  obtain ⟨hle, hhalf, hstep⟩ := h.step_east hu i.le_succ ha hb
  rcases hstep with hstep | ⟨hlt, hstep⟩
  · rw [hstep, abs_of_nonneg (by linarith)] at hlong
    exact ⟨by linarith, Or.inl (by linarith)⟩
  · exact ⟨hlt, Or.inr hstep⟩

/-- Going east there is no second long step after a first one. -/
lemma not_isLongStep_of_lt_east {i j : ℕ} (hij : i < j) (hi : IsLongStep lons i)
    (hj : IsLongStep lons j) : False := by
  obtain ⟨a, a', ha, ha', hlong⟩ := hi
  obtain ⟨b, b', hb, hb', hlong'⟩ := hj
  obtain ⟨hlt₁, hstep₁⟩ := h.long_step_east hu ha ha' hlong
  obtain ⟨hlt₂, hstep₂⟩ := h.long_step_east hu hb hb' hlong'
  obtain ⟨hle, -, hbetween⟩ := h.step_east hu (Nat.succ_le_of_lt hij) ha' hb
  obtain ⟨-, hhalf, hall⟩ := h.step_east hu (by omega : i ≤ j + 1) ha hb'
  rcases hstep₁ with hhalf₁ | hpass₁
  · -- half a turn is all there is
    linarith
  · rcases hstep₂ with hhalf₂ | hpass₂
    · linarith
    · -- the antimeridian is not passed twice
      rcases hbetween with hbetween | ⟨-, hbetween⟩ <;> rcases hall with hall | ⟨-, hall⟩ <;>
        linarith

end East

end Unwinds

/-! ### Ties -/

namespace Placed

/-- The longitude at which a point of a line is drawn. -/
noncomputable def drawnLon (side : Side) (lon : ℝ) : ℝ :=
  if IsTie lon then snapLongitude side lon else lon

lemma lon_ofPoint (p : MapPoint ℝ) (side : Side) :
    (ofPoint p side).point.lon = drawnLon side p.lon := by
  unfold drawnLon
  split
  · rename_i htie
    simp [ofPoint, Side.ofLongitude?_eq_none_iff.2 htie]
  · rename_i htie
    obtain ⟨s, hs⟩ := Side.exists_of_not_isTie htie
    simp [ofPoint, hs]

lemma getElem?_drawn {points : List (MapPoint ℝ)} {i : ℕ} {b : ℝ}
    (h : ((snappedPoints points).map MapPoint.lon)[i]? = some b) :
    ∃ a side, (points.map MapPoint.lon)[i]? = some a ∧
      (Side.resolve (points.map MapPoint.lon))[i]? = some side ∧ b = drawnLon side a := by
  rw [snappedPoints, List.map_map, List.getElem?_map, Option.map_eq_some_iff] at h
  obtain ⟨placed, hplaced, rfl⟩ := h
  obtain ⟨p, side, hp, hside, rfl⟩ := getElem?_ofPoints hplaced
  exact ⟨p.lon, side, by rw [List.getElem?_map, hp, Option.map_some], hside,
    lon_ofPoint p side⟩

/-- On each side the antimeridian is spelled in one way. -/
lemma exists_seamLon (side : Side) :
    ∃ seam : ℝ, (seam = 180 ∨ seam = -180) ∧
      ∀ lon, snapLongitude side lon = if |lon| ≤ 90 then 0 else seam := by
  have hquarter (lon : ℝ) : magnitude lon ≤ 90.0 ↔ |lon| ≤ 90 := by norm_num
  refine ⟨side.seamLon, ?_, fun lon => ?_⟩
  · cases side <;> norm_num [Side.seamLon]
  · simp only [snapLongitude_eq, hquarter]
    norm_num

lemma abs_drawnLon_le {side : Side} {lon : ℝ} (h : |lon| ≤ 180) : |drawnLon side lon| ≤ 180 := by
  obtain ⟨seam, hseam, hsnap⟩ := exists_seamLon side
  rw [drawnLon, hsnap]
  split_ifs
  · norm_num
  · rcases hseam with rfl | rfl <;> norm_num
  · exact h

/-- A tie is drawn on its meridian, but for whole turns. -/
lemma exists_drawnLon_eq (side : Side) {lon : ℝ} (h : |lon| ≤ 180) :
    ∃ k : ℤ, drawnLon side lon = snapLon lon + 360 * k := by
  by_cases htie : IsTie lon
  · obtain ⟨seam, hseam, hsnap⟩ := exists_seamLon side
    rw [drawnLon, if_pos htie, snapLon_of_isTie htie, hsnap, meridianOf_eq]
    obtain ⟨hlow, hhigh⟩ := abs_le.1 h
    split
    · rename_i hquarter
      -- a tie this side of 90 degrees is nearest to the prime meridian
      obtain ⟨hlow, hhigh⟩ := abs_lt.1 (lt_of_le_of_ne hquarter htie.abs_ne_quarter)
      have hround : round (lon / 180) = 0 := by
        rw [round_eq_zero_iff]
        constructor <;> linarith
      exact ⟨0, by rw [hround]; simp⟩
    · rename_i hquarter
      -- beyond 90 degrees the nearest meridian is one of the two spellings of the antimeridian
      have hround : round (lon / 180) = 1 ∨ round (lon / 180) = -1 := by
        rw [round_eq, Int.floor_eq_iff, Int.floor_eq_iff]
        rcases lt_abs.1 (not_le.1 hquarter) with hpos | hneg
        · left
          constructor <;> push_cast <;> linarith
        · right
          constructor <;> push_cast <;> linarith
      rcases hseam with rfl | rfl <;> rcases hround with hround | hround <;> rw [hround]
      · exact ⟨0, by norm_num⟩
      · exact ⟨1, by norm_num⟩
      · exact ⟨-1, by norm_num⟩
      · exact ⟨0, by norm_num⟩
  · refine ⟨0, ?_⟩
    rw [drawnLon, if_neg htie, snapLon_of_not_isTie htie]
    simp

/-- On one side the drawn longitudes of two ties do not differ by whole turns. -/
lemma snapLongitude_eq_of_turns {side : Side} {a b : ℝ} {k : ℤ}
    (h : snapLongitude side a = snapLongitude side b + 360 * k) :
    snapLongitude side a = snapLongitude side b := by
  -- half a turn is no number of whole turns
  have hhalf (s : ℝ) (hs : s = 180 ∨ s = -180) : s ≠ 360 * k := by
    intro hturns
    have hodd : (2 * k : ℝ) = 1 ∨ (2 * k : ℝ) = -1 := hs.imp (by intro hs; linarith)
      (by intro hs; linarith)
    have hodd' : 2 * k = 1 ∨ 2 * k = -1 := by exact_mod_cast hodd
    omega
  obtain ⟨seam, hseam, hsnap⟩ := exists_seamLon side
  rw [hsnap, hsnap] at h ⊢
  split_ifs at h ⊢
  · rfl
  · exact absurd (by linarith) (hhalf (-seam) (by rcases hseam with rfl | rfl <;> simp))
  · exact absurd (by linarith) (hhalf seam hseam)
  · rfl

end Placed

namespace Unwinds

variable {points : List (MapPoint ℝ)} {u : ℕ → ℝ} (h : Unwinds (points.map MapPoint.lon) u)
include h

/-- Whole turns, counted in half turns. -/
lemma eq_add_half_turns {i : ℕ} {lon : ℝ} (hlon : (points.map MapPoint.lon)[i]? = some lon) :
    ∃ k : ℤ, lon = u i + 180 * (2 * k : ℤ) := by
  obtain ⟨k, hk⟩ := h.turns hlon
  refine ⟨k, ?_⟩
  rw [hk]
  push_cast
  ring

lemma isTie_iff {i : ℕ} {lon : ℝ} (hlon : (points.map MapPoint.lon)[i]? = some lon) :
    IsTie lon ↔ IsTie (u i) := by
  obtain ⟨k, hk⟩ := h.eq_add_half_turns hlon
  rw [hk, isTie_add_half_turns]

/-- The drawn longitude unwinds to the unwound longitude with its tie moved. -/
lemma turns_drawnLon {i : ℕ} {lon : ℝ} (hlon : (points.map MapPoint.lon)[i]? = some lon)
    (side : Side) : ∃ k : ℤ, Placed.drawnLon side lon = snapLon (u i) + 360 * k := by
  obtain ⟨k, hk⟩ := h.eq_add_half_turns hlon
  obtain ⟨l, hl⟩ := Placed.exists_drawnLon_eq side (h.onMap lon (List.mem_of_getElem? hlon))
  refine ⟨k + l, ?_⟩
  rw [hl, hk, snapLon_add_half_turns]
  push_cast
  ring

/-- Ties that are unwound to one meridian, and all that is between them, are drawn alike. -/
lemma drawnLon_eq (hu : MonotoneOn u (Set.Iio points.length) ∨
      AntitoneOn u (Set.Iio points.length)) {i j : ℕ} (hij : i ≤ j) {a b : ℝ} {s t : Side}
    (ha : (points.map MapPoint.lon)[i]? = some a) (hb : (points.map MapPoint.lon)[j]? = some b)
    (hs : (Side.resolve (points.map MapPoint.lon))[i]? = some s)
    (ht : (Side.resolve (points.map MapPoint.lon))[j]? = some t)
    (heq : snapLon (u i) = snapLon (u j)) : Placed.drawnLon s a = Placed.drawnLon t b := by
  have htieB : IsTie b ↔ IsTie a := by
    rw [h.isTie_iff ha, h.isTie_iff hb, ← isTie_snapLon, ← heq, isTie_snapLon]
  by_cases htie : IsTie a
  · -- all between are ties on the same meridian, so they inherit one side
    have hj : j < points.length := by
      simpa using (List.getElem?_eq_some_iff.1 hb).1
    have hties : ∀ k, i < k → k ≤ j →
        ∃ lon, (points.map MapPoint.lon)[k]? = some lon ∧ IsTie lon := by
      intro k hik hkj
      have hi' : i ∈ Set.Iio points.length := by
        rw [Set.mem_Iio]
        omega
      have hk' : k ∈ Set.Iio points.length := by
        rw [Set.mem_Iio]
        omega
      obtain ⟨lon, hlon⟩ : ∃ lon, (points.map MapPoint.lon)[k]? = some lon :=
        ⟨_, List.getElem?_eq_getElem (by rw [List.length_map]; exact hk')⟩
      refine ⟨lon, hlon, ?_⟩
      have hsame : snapLon (u k) = snapLon (u i) := by
        rcases hu with hu | hu
        · refine le_antisymm ?_ (snapLon_mono (hu hi' hk' hik.le))
          rw [heq]
          exact snapLon_mono (hu hk' hj hkj)
        · refine le_antisymm (snapLon_mono (hu hi' hk' hik.le)) ?_
          rw [heq]
          exact snapLon_mono (hu hk' hj hkj)
      rw [h.isTie_iff hlon, ← isTie_snapLon, hsame, isTie_snapLon, ← h.isTie_iff ha]
      exact htie
    obtain rfl : t = s := by
      have hside := Side.getElem?_resolve_of_ties hij hties
      rw [ht, hs] at hside
      exact Option.some.inj hside
    obtain ⟨k, hk⟩ := h.turns_drawnLon ha t
    obtain ⟨l, hl⟩ := h.turns_drawnLon hb t
    rw [Placed.drawnLon, if_pos htie] at hk ⊢
    rw [Placed.drawnLon, if_pos (htieB.2 htie)] at hl ⊢
    refine Placed.snapLongitude_eq_of_turns (k := k - l) ?_
    rw [hk, hl, heq]
    push_cast
    ring
  · -- a longitude that is no tie is drawn as it is
    have hua : ¬ IsTie (u i) := fun hi => htie ((h.isTie_iff ha).2 hi)
    have hub : ¬ IsTie (u j) := fun hj => htie (htieB.1 ((h.isTie_iff hb).2 hj))
    rw [snapLon_of_not_isTie hua, snapLon_of_not_isTie hub] at heq
    rw [Placed.drawnLon, if_neg htie, Placed.drawnLon, if_neg fun hb => htie (htieB.1 hb)]
    exact h.spelling ha hb heq

/-- **Ties keep a line unwound.**  Moving the ties of a line that runs one way leaves it unwound as
it was, but for the ties. -/
theorem snapped (hu : MonotoneOn u (Set.Iio points.length) ∨
      AntitoneOn u (Set.Iio points.length)) :
    Unwinds ((snappedPoints points).map MapPoint.lon) (snapLon ∘ u) := by
  refine ⟨?_, ?_, ?_, ?_⟩
  · intro lon hlon
    obtain ⟨i, hi⟩ := List.mem_iff_getElem?.1 hlon
    obtain ⟨a, side, ha, -, rfl⟩ := Placed.getElem?_drawn hi
    exact Placed.abs_drawnLon_le (h.onMap a (List.mem_of_getElem? ha))
  · intro i lon hlon
    obtain ⟨a, side, ha, -, rfl⟩ := Placed.getElem?_drawn hlon
    exact h.turns_drawnLon ha side
  · intro i j lon lon' hlon hlon' heq
    obtain ⟨a, s, ha, hs, rfl⟩ := Placed.getElem?_drawn hlon
    obtain ⟨b, t, hb, ht, rfl⟩ := Placed.getElem?_drawn hlon'
    rcases le_total i j with hij | hji
    · exact h.drawnLon_eq hu hij ha hb hs ht heq
    · exact (h.drawnLon_eq hu hji hb ha ht hs heq.symm).symm
  · intro i j hi hj
    rw [List.length_map, length_snappedPoints, ← List.length_map (f := MapPoint.lon)] at hi hj
    exact abs_snapLon_sub_le (h.half_turn hi hj)

end Unwinds

/-! ### Crossings and pieces -/

/-- A crossing is a long step of the line that is cut. -/
lemma isLongStep_of_mem_seamCrossings {points : List (MapPoint ℝ)} {i : ℕ}
    (h : i ∈ seamCrossings points) :
    IsLongStep ((snappedPoints points).map MapPoint.lon) i := by
  obtain ⟨a, b, ha, hb, hcross⟩ := Placed.mem_crossings_iff.1 h
  refine ⟨a.point.lon, b.point.lon, ?_, ?_, ?_⟩
  · simp [snappedPoints, ha]
  · simp [snappedPoints, hb]
  · rw [Placed.crosses, Bool.and_eq_true, decide_eq_true_eq, magnitude_real] at hcross
    have hlong := hcross.1
    norm_num at hlong
    exact hlong

/-- What is drawn is a run of short steps of the line that is cut. -/
lemma points_mem_splitBy {points : List (MapPoint ℝ)} (hne : points ≠ [])
    (hlon : ∀ p ∈ points, -180 ≤ p.lon ∧ p.lon ≤ 180) {line : Polyline ℝ}
    (h : line ∈ splitAtSeam .all points) :
    line.points ∈ (snappedPoints points).splitBy fun p q => decide (|q.lon - p.lon| < 180) := by
  obtain ⟨piece, hpiece, hdrawn⟩ := List.mem_filterMap.1 h
  rw [Polyline.ofPoints?_eq_some_iff] at hdrawn
  rwa [seamPieces_eq_splitBy hne hlon, ← hdrawn] at hpiece

/-- A drawn line has no long step. -/
lemma isChain_short_of_mem_splitAtSeam {points : List (MapPoint ℝ)} (hne : points ≠ [])
    (hlon : ∀ p ∈ points, -180 ≤ p.lon ∧ p.lon ≤ 180) {line : Polyline ℝ}
    (h : line ∈ splitAtSeam .all points) :
    line.points.IsChain fun p q => |q.lon - p.lon| < 180 :=
  (List.isChain_of_mem_splitBy (points_mem_splitBy hne hlon h)).imp fun p q hpq => by
    simpa using hpq

/-- What short steps of the line that is cut do, all steps of a drawn line do. -/
lemma isChain_of_mem_splitAtSeam {points : List (MapPoint ℝ)} (hne : points ≠ [])
    (hlon : ∀ p ∈ points, -180 ≤ p.lon ∧ p.lon ≤ 180) {r : ℝ → ℝ → Prop}
    (hshort : ∀ (i : ℕ) a b, ((snappedPoints points).map MapPoint.lon)[i]? = some a →
      ((snappedPoints points).map MapPoint.lon)[i + 1]? = some b → |b - a| < 180 → r a b)
    {line : Polyline ℝ} (h : line ∈ splitAtSeam .all points) :
    (line.points.map MapPoint.lon).IsChain r := by
  have hall : (snappedPoints points).IsChain fun p q =>
      |q.lon - p.lon| < 180 → r p.lon q.lon := by
    rw [List.isChain_iff_getElem]
    intro i hi
    refine hshort i _ _ ?_ ?_
    · rw [List.getElem?_map, List.getElem?_eq_getElem, Option.map_some]
    · rw [List.getElem?_map, List.getElem?_eq_getElem hi, Option.map_some]
  have hinfix : line.points <:+: snappedPoints points := by
    have hmem := List.infix_of_mem_flatten (points_mem_splitBy hne hlon h)
    rwa [List.flatten_splitBy] at hmem
  have hrun := hall.infix hinfix
  have hline := List.isChain_iff_getElem.1 hrun
  have hsteps := List.isChain_iff_getElem.1 (isChain_short_of_mem_splitAtSeam hne hlon h)
  rw [List.isChain_map, List.isChain_iff_getElem]
  intro i hi
  exact hline i hi (hsteps i hi)

section OneWay

variable {points : List (MapPoint ℝ)} {u : ℕ → ℝ} (h : Unwinds (points.map MapPoint.lon) u)
  (hu : MonotoneOn u (Set.Iio points.length) ∨ AntitoneOn u (Set.Iio points.length))
include h hu

/-- Moving the ties leaves a line that goes east going east, and one that goes west, mirrored,
going east. -/
lemma snapped_east_or_west :
    Unwinds ((snappedPoints points).map MapPoint.lon) (snapLon ∘ u) ∧
      (MonotoneOn (snapLon ∘ u) (Set.Iio (snappedPoints points).length) ∨
        MonotoneOn (-(snapLon ∘ u)) (Set.Iio (snappedPoints points).length)) := by
  rw [length_snappedPoints]
  exact ⟨h.snapped hu, hu.imp (fun hu => snapLon_mono.comp_monotoneOn hu)
    fun hu => (snapLon_mono.comp_antitoneOn hu).neg⟩

/-- **One crossing.**  A line that goes one way round, by half a turn at most, crosses the
antimeridian once at most. -/
theorem length_seamCrossings_le_one : (seamCrossings points).length ≤ 1 := by
  obtain ⟨hsnapped, hway⟩ := snapped_east_or_west h hu
  have hnot : ∀ i j, i < j → i ∈ seamCrossings points → j ∈ seamCrossings points → False := by
    intro i j hij hi hj
    have hi' := isLongStep_of_mem_seamCrossings hi
    have hj' := isLongStep_of_mem_seamCrossings hj
    rcases hway with heast | hwest
    · exact hsnapped.not_isLongStep_of_lt_east (by simpa using heast) hij hi' hj'
    · exact hsnapped.neg.not_isLongStep_of_lt_east (by simpa using hwest) hij hi'.neg hj'.neg
  have hsorted := (Placed.cuts_crossings (Placed.ofPoints points)).sorted
  change (seamCrossings points).Pairwise (· < ·) at hsorted
  match hcrossings : seamCrossings points with
  | [] => simp
  | [i] => simp
  | i :: j :: rest =>
    rw [hcrossings] at hsorted hnot
    have hij : i < j := (List.pairwise_cons.1 hsorted).1 j (by simp)
    exact (hnot i j hij (by simp) (by simp)).elim

/-- **Pieces run one way.**  The lines drawn for a line that goes one way round, by half a turn at
most, all go east or all go west. -/
theorem sorted_or_sorted_of_splitAtSeam (hne : points ≠ []) :
    (∀ line ∈ splitAtSeam .all points, (line.points.map MapPoint.lon).SortedLE) ∨
      ∀ line ∈ splitAtSeam .all points, (line.points.map MapPoint.lon).SortedGE := by
  have hlon : ∀ p ∈ points, -180 ≤ p.lon ∧ p.lon ≤ 180 := fun p hp =>
    abs_le.1 (h.onMap p.lon (List.mem_map_of_mem hp))
  obtain ⟨hsnapped, hway⟩ := snapped_east_or_west h hu
  refine hway.imp (fun heast line hline => ?_) fun hwest line hline => ?_
  · refine (isChain_of_mem_splitAtSeam hne hlon ?_ hline).sortedLE
    intro i a b ha hb hshort
    exact hsnapped.le_of_short_east (by simpa using heast) ha hb hshort
  · refine (isChain_of_mem_splitAtSeam hne hlon ?_ hline).sortedGE
    intro i a b ha hb hshort
    have hle := hsnapped.neg.le_of_short_east (by simpa using hwest) (a := -a) (b := -b)
      (by rw [List.getElem?_map, ha, Option.map_some])
      (by rw [List.getElem?_map, hb, Option.map_some])
      (by rwa [neg_sub_neg, abs_sub_comm])
    linarith

end OneWay

end GreatCircle
