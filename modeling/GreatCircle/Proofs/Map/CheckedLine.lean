/-
# Cut lines over checked numbers

A line is placed, and cut, over `Checked` numbers as over the real ones: no formula on the way from
a line to its pieces divides by zero (`checked_splitAtSeam`).  The angles are turned into radians,
and that is all the division there is; every order test comes out the same.
-/
import GreatCircle.Proofs.Checked
import GreatCircle.Proofs.Map.Conservation

namespace GreatCircle

open Scalar

/-- The point in checked numbers. -/
def MapPoint.checked (p : MapPoint ℝ) : MapPoint Checked := ⟨.of p.lon, .of p.lat⟩

/-- The line in checked numbers. -/
def Polyline.checked (line : Polyline ℝ) : Polyline Checked :=
  ⟨line.points.map MapPoint.checked, by simpa using line.two_le⟩

/-- The placed point in checked numbers; it is on the same side. -/
def Placed.checked (a : Placed ℝ) : Placed Checked := ⟨a.point.checked, a.side, a.isTie⟩

/-! ### Sides -/

namespace Side

lemma checked_seamSine (lon : ℝ) : seamSine (Checked.of lon) = .of (seamSine lon) :=
  congrArg sin (Checked.radians_of (lon + 180.0))

lemma checked_ofLongitude? (lon : ℝ) : ofLongitude? (Checked.of lon) = ofLongitude? lon := by
  have htie : magnitude (Checked.of (seamSine lon)) < tieTolerance ↔
      magnitude (seamSine lon) < tieTolerance := Checked.of_lt
  have hwest : 0.0 < Checked.of (seamSine lon) ↔ 0.0 < seamSine lon := Checked.of_lt
  have heast : Checked.of (seamSine lon) < 0.0 ↔ seamSine lon < 0.0 := Checked.of_lt
  simp only [ofLongitude?, checked_seamSine, htie, hwest, heast]

lemma checked_ofTies (lons : List ℝ) : ofTies (lons.map Checked.of) = ofTies lons := by
  have hbeyond (lon : ℝ) : 90.0 < magnitude (Checked.of lon) ↔ 90.0 < magnitude lon :=
    Checked.of_lt
  have hwest (lon : ℝ) : Checked.of lon < 0.0 ↔ lon < 0.0 := Checked.of_lt
  simp only [ofTies, List.find?_map, Function.comp_def, hbeyond]
  cases lons.find? fun lon => decide (90.0 < magnitude lon) with
  | none => rfl
  | some lon => simp only [Option.map_some, hwest]

lemma checked_resolve (lons : List ℝ) : resolve (lons.map Checked.of) = resolve lons := by
  have hown : (ofLongitude? ∘ Checked.of : ℝ → Option Side) = ofLongitude? :=
    funext checked_ofLongitude?
  rw [resolve, ofStart, List.findSome?_map, List.map_map, hown, checked_ofTies]
  rfl

end Side

/-! ### Placed points -/

namespace Placed

lemma checked_snapLongitude (side : Side) (lon : ℝ) :
    snapLongitude side (Checked.of lon) = .of (snapLongitude side lon) := by
  have hprime : magnitude (Checked.of lon) ≤ 90.0 ↔ magnitude lon ≤ 90.0 := Checked.of_le
  simp only [snapLongitude_eq, hprime]
  split
  · rfl
  · cases side <;> rfl

lemma checked_ofPoint (p : MapPoint ℝ) (side : Side) :
    ofPoint p.checked side = (ofPoint p side).checked := by
  have hown : Side.ofLongitude? p.checked.lon = Side.ofLongitude? p.lon :=
    Side.checked_ofLongitude? p.lon
  rw [ofPoint, hown, ofPoint]
  cases Side.ofLongitude? p.lon with
  | none =>
    have hsnap : snapLongitude side p.checked.lon = .of (snapLongitude side p.lon) :=
      checked_snapLongitude side p.lon
    simp only [hsnap]
    rfl
  | some own => rfl

lemma checked_ofPoints (points : List (MapPoint ℝ)) :
    ofPoints (points.map MapPoint.checked) = (ofPoints points).map checked := by
  have hlons : (points.map MapPoint.checked).map MapPoint.lon =
      (points.map MapPoint.lon).map Checked.of := by
    rw [List.map_map, List.map_map]
    rfl
  rw [ofPoints, hlons, Side.checked_resolve, ofPoints, List.zipWith_map_left, List.map_zipWith]
  simp only [checked_ofPoint]

lemma checked_crosses (a b : Placed ℝ) : a.checked.crosses b.checked = a.crosses b := by
  have hlong : 180.0 ≤ magnitude (b.checked.point.lon - a.checked.point.lon) ↔
      180.0 ≤ magnitude (b.point.lon - a.point.lon) := Checked.of_le
  simp only [crosses, hlong]
  rfl

end Placed

/-- A line is cut in the same way over checked numbers. -/
lemma checked_splitAtSeam (points : List (MapPoint ℝ)) :
    seamCrossings (points.map MapPoint.checked) = seamCrossings points ∧
      ∀ mode, splitAtSeam mode (points.map MapPoint.checked) =
        (splitAtSeam mode points).map Polyline.checked :=
  splitAtSeam_map (Placed.checked_ofPoints points) (fun _ => rfl) Placed.checked_crosses
    fun _ => rfl

end GreatCircle
