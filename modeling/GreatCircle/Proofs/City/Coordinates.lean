/-
# What counts as a coordinate

`Value.StandsFor` says which double a value stands for where a coordinate is wanted, and
`GeoPoint.IsOnGlobe` which doubles are the coordinates of a place.  These are just the values and
the doubles that are taken (`Value.toCoordinate_eq_ok_iff`, `GeoPoint.ofCoordinates_eq_ok_iff`).
-/
import GreatCircle.Proofs.City.LastEntry

namespace GreatCircle

namespace GeoPoint

/-- The doubles are a latitude and a longitude: both are finite, and they are in range. -/
structure IsOnGlobe (lat lon : Float) : Prop where
  latFinite : lat.isFinite = true
  lonFinite : lon.isFinite = true
  latMem : -90.0 ≤ lat ∧ lat ≤ 90.0
  lonMem : -180.0 ≤ lon ∧ lon ≤ 180.0

/-- The place with these coordinates. -/
def IsOnGlobe.place {lat lon : Float} (h : IsOnGlobe lat lon) : GeoPoint Float :=
  ⟨lat, lon, h.latMem.1, h.latMem.2, h.lonMem.1, h.lonMem.2⟩

/-- Doubles are the coordinates of a place just if they are finite and in range. -/
lemma ofCoordinates_eq_ok_iff {lat lon : Float} {p : GeoPoint Float} :
    ofCoordinates lat lon = .ok p ↔ ∃ h : IsOnGlobe lat lon, h.place = p := by
  constructor
  · intro h
    obtain ⟨rfl, rfl⟩ := ofCoordinates_eq_ok h
    have hfinite : (p.lat.isFinite && p.lon.isFinite) = true := by
      by_contra hfinite
      have hfault : ofDegrees p.lat p.lon = .error (.notFinite p.lat p.lon) := if_neg hfinite
      rw [ofCoordinates, hfault] at h
      contradiction
    obtain ⟨hlat, hlon⟩ := Bool.and_eq_true_iff.1 hfinite
    exact ⟨⟨hlat, hlon, ⟨p.le_lat, p.lat_le⟩, p.le_lon, p.lon_le⟩, rfl⟩
  · rintro ⟨h, rfl⟩
    have hself : ofDegrees lat lon = .ok h.place := ofDegrees_self h.place h.latFinite h.lonFinite
    rw [ofCoordinates, hself]

end GeoPoint

namespace Value

/-- The double that a value stands for where a coordinate is wanted. -/
inductive StandsFor : Value → Float → Prop
  /-- A double stands for itself. -/
  | float {x : Float} : StandsFor (.float x) x
  /-- A truth value stands for one or zero. -/
  | bool {b : Bool} : StandsFor (.bool b) (if b then 1.0 else 0.0)
  /-- A whole number stands for the double nearest to it. -/
  | int {n : Int} {x : Float} (nearest : Decimal.ofInt? n = some x) : StandsFor (.int n) x
  /-- A text stands for the double that is written in it. -/
  | text {t : Text} {x : Float} (written : Numeral.float? t = some x) : StandsFor (.text t) x
  /-- Bytes stand for the double that is written in them as characters of the common script. -/
  | bytes {b : List UInt8} {x : Float} (common : ∀ c ∈ b, c < 0x80)
      (written : Numeral.float? (Text.ofChars (b.map fun c => Char.ofNat c.toNat)) = some x) :
      StandsFor (.bytes b) x

lemma coordinateOfText_eq_ok_iff {t : Text} {x : Float} :
    coordinateOfText t = .ok x ↔ Numeral.float? t = some x := by
  rw [coordinateOfText]
  cases Numeral.float? t with
  | none => simp
  | some y => simp

lemma coordinateOfBytes_eq_ok_iff {b : List UInt8} {x : Float} :
    coordinateOfBytes b = .ok x ↔ (∀ c ∈ b, c < 0x80) ∧
      Numeral.float? (Text.ofChars (b.map fun c => Char.ofNat c.toNat)) = some x := by
  have hcommon : b.all (· < 0x80) = true ↔ ∀ c ∈ b, c < 0x80 := by simp
  rw [coordinateOfBytes, ← hcommon]
  cases b.all (· < 0x80) with
  | false => simp
  | true =>
    simp only [if_true]
    cases Numeral.float? (Text.ofChars (b.map fun c => Char.ofNat c.toNat)) with
    | none => simp
    | some y => simp

lemma toCoordinate_eq_ok_iff {v : Value} {x : Float} :
    v.toCoordinate = .ok x ↔ v.StandsFor x := by
  constructor
  · intro h
    cases v with
    | float y =>
      obtain rfl := Except.ok.inj h
      exact .float
    | bool b =>
      obtain rfl := Except.ok.inj h
      exact .bool
    | int n =>
      rw [toCoordinate] at h
      cases hn : Decimal.ofInt? n with
      | none =>
        rw [hn] at h
        contradiction
      | some y =>
        rw [hn] at h
        obtain rfl := Except.ok.inj h
        exact .int hn
    | text t => exact .text (coordinateOfText_eq_ok_iff.1 (mapError_eq_ok.1 h))
    | bytes b =>
      obtain ⟨hcommon, hwritten⟩ := coordinateOfBytes_eq_ok_iff.1 (mapError_eq_ok.1 h)
      exact .bytes hcommon hwritten
    | _ => contradiction
  · rintro (_ | _ | hn | hwritten | ⟨hcommon, hwritten⟩)
    · rfl
    · rfl
    · rw [toCoordinate, hn]
    · exact mapError_eq_ok.2 (coordinateOfText_eq_ok_iff.2 hwritten)
    · exact mapError_eq_ok.2 (coordinateOfBytes_eq_ok_iff.2 ⟨hcommon, hwritten⟩)

end Value

end GreatCircle
