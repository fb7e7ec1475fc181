/-
# Whose side a tie takes

A tie has no side of its own and takes one over.  Told at a position of the line, the rule is this.
The side is that of the nearest point with a side, going back from the position.  If there is none,
it is that of the first point with a side further on.  On a line of ties only it is west or east, by
the sign of the first longitude beyond 90 degrees (`TakesSide`).

`Side.resolve` needs one scan, as it looks first for the side from which the line sets out.  Without
looking for it the sides are found by two scans in opposite directions, in each of which a point
without a side takes the side met last (`twoScans`).  After the first of them only a run of ties at
the start is left without a side (`carry_of_run`), and the second changes nothing but that run
(`carry_back_of_run`); so no point is left without a side, and both ways come to the same sides
(`twoScans_eq`).

This holds for every kind of numbers.  If the sine of a finite longitude can be compared with zero
(`DefinedSines`), finite longitudes have no other sides than west and east.
-/
import Mathlib.Order.Nat
import Mathlib.Order.SuccPred.Archimedean
import GreatCircle.Proofs.Map.ExactSide

namespace GreatCircle

open Scalar

namespace Side

/-! ### Two scans -/

/-- A scan along points of which some have a side already: one that has none takes the side met
last, which is `last` before the first of them. -/
def carry (last : Option Side) : List (Option Side) → List (Option Side)
  | [] => []
  | none :: rest => last :: carry last rest
  | some side :: rest => some side :: carry (some side) rest

/-- Once a side has been met, no point is left without one. -/
lemma carry_some (side : Side) (sides : List (Option Side)) :
    carry (some side) sides = (inherit side sides).map some := by
  induction sides generalizing side with
  | nil => rfl
  | cons own sides ih =>
    cases own with
    | none => rw [carry, inherit, List.map_cons, ih]
    | some own => rw [carry, inherit, List.map_cons, ih]

/-- Before a side has been met, nothing changes. -/
lemma carry_none_replicate_append (count : ℕ) (sides : List (Option Side)) :
    carry none (List.replicate count none ++ sides) =
      List.replicate count none ++ carry none sides := by
  induction count with
  | zero => rfl
  | succ count ih => rw [List.replicate_succ, List.cons_append, List.cons_append, carry, ih]

/-- **The scan forward.**  Only the run of ties at the start of the line is left without a side. -/
lemma carry_of_run (count : ℕ) (side : Side) (rest : List (Option Side)) :
    carry none (List.replicate count none ++ some side :: rest) =
      List.replicate count none ++ (side :: inherit side rest).map some := by
  rw [carry_none_replicate_append, carry, carry_some, List.map_cons]

/-- Points that have a side keep it, and the last one's side is handed on. -/
lemma carry_map_some_append (last : Option Side) (sides : List Side) (side : Side)
    (more : List (Option Side)) :
    carry last ((sides ++ [side]).map some ++ more) =
      (sides ++ [side]).map some ++ carry (some side) more := by
  induction sides generalizing last with
  | nil => rfl
  | cons first sides ih =>
    rw [List.cons_append, List.map_cons, List.cons_append, carry, ih, List.cons_append]

lemma inherit_replicate_append (side : Side) (count : ℕ) (sides : List (Option Side)) :
    inherit side (List.replicate count none ++ sides) =
      List.replicate count side ++ inherit side sides := by
  induction count with
  | zero => rfl
  | succ count ih =>
    rw [List.replicate_succ, List.cons_append, inherit, ih, List.replicate_succ, List.cons_append]

lemma inherit_replicate (side : Side) (count : ℕ) :
    inherit side (List.replicate count none) = List.replicate count side := by
  have h := inherit_replicate_append side count []
  rwa [List.append_nil, inherit, List.append_nil] at h

/-- **The scan back.**  The run at the start gets the first side of the line, and nothing else
changes. -/
lemma carry_back_of_run (count : ℕ) (side : Side) (sides : List Side) :
    (carry none (List.replicate count none ++ (side :: sides).map some).reverse).reverse =
      (List.replicate count side ++ side :: sides).map some := by
  have hback : (List.replicate count none ++ (side :: sides).map some).reverse =
      (sides.reverse ++ [side]).map some ++ List.replicate count none := by
    rw [List.reverse_append, List.reverse_replicate, ← List.map_reverse, List.reverse_cons]
  rw [hback, carry_map_some_append, carry_some, inherit_replicate, List.reverse_append,
    ← List.map_reverse, ← List.map_reverse, List.reverse_replicate, List.reverse_append,
    List.reverse_singleton, List.reverse_reverse, ← List.map_append, List.singleton_append]

section Lines

variable {α : Type} [Scalar α]

/-- The sides of a line's points, found by a scan along the line and another one back; none for a
point that is left without.  On a line of ties there is nothing to take over. -/
def twoScans (lons : List α) : List (Option Side) :=
  let own := lons.map ofLongitude?
  if own.any Option.isSome then (carry none (carry none own).reverse).reverse
  else List.replicate lons.length (some (ofTies lons))

/-- A line with a point that has a side begins with a run of ties, and then there is the side from
which it sets out. -/
lemma exists_run {lons : List α} (h : ∃ lon ∈ lons, ¬ IsTie lon) :
    ∃ count rest, lons.map ofLongitude? =
      List.replicate count none ++ some (ofStart lons) :: rest := by
  obtain ⟨side, hfirst, hstart⟩ := exists_ofStart_eq h
  obtain ⟨run, lon, more, hlons, hside, hrun⟩ := List.findSome?_eq_some_iff.1 hfirst
  refine ⟨run.length, more.map ofLongitude?, ?_⟩
  have hnone : run.map ofLongitude? = List.replicate run.length none :=
    List.map_eq_replicate_iff.2 hrun
  rw [hstart, hlons, List.map_append, List.map_cons, hnone, hside]

/-- On a line of ties all points have one side, which the ties decide. -/
lemma resolve_of_ties {lons : List α} (h : ∀ lon ∈ lons, ofLongitude? lon = none) :
    resolve lons = List.replicate lons.length (ofTies lons) := by
  rw [resolve, ofStart, List.findSome?_eq_none_iff.2 h, Option.getD_none,
    List.map_eq_replicate_iff.2 h, inherit_replicate]

/-- **Two scans.**  They leave no point without a side, and find the sides that the line's points
have. -/
lemma twoScans_eq (lons : List α) : twoScans lons = (resolve lons).map some := by
  unfold twoScans
  dsimp only
  split
  · rename_i hany
    have hside : ∃ lon ∈ lons, ¬ IsTie lon := by
      obtain ⟨own, hmem, hown⟩ := List.any_eq_true.1 hany
      obtain ⟨lon, hlon, rfl⟩ := List.mem_map.1 hmem
      obtain ⟨side, hside⟩ := Option.isSome_iff_exists.1 hown
      exact ⟨lon, hlon, not_isTie_of_side hside⟩
    obtain ⟨count, rest, hrun⟩ := exists_run hside
    rw [resolve, hrun, carry_of_run, carry_back_of_run, inherit_replicate_append, inherit]
  · rename_i hany
    have hties : ∀ lon ∈ lons, ofLongitude? lon = none := by
      intro lon hlon
      by_contra hside
      exact hany (List.any_eq_true.2
        ⟨_, List.mem_map_of_mem hlon, Option.isSome_iff_ne_none.2 hside⟩)
    rw [resolve_of_ties hties, List.map_replicate]

/-! ### The rule at a position -/

/-- The side that the point at a position has of its own; none for a tie, and beyond the line. -/
def own? (lons : List α) (i : ℕ) : Option Side := lons[i]?.bind ofLongitude?

/-- The longitude at a position is beyond 90 degrees. -/
def IsFar (lons : List α) (i : ℕ) : Prop := ∃ lon, lons[i]? = some lon ∧ 90.0 < magnitude lon

/-- The side that the point at a position of a line has or takes over. -/
inductive TakesSide (lons : List α) (i : ℕ) : Side → Prop
  /-- It is that of the nearest point with a side, at the position or before it. -/
  | before {j : ℕ} {side : Side} (nearest : IsGreatest {k | k ≤ i ∧ own? lons k ≠ none} j)
    (own : own? lons j = some side) : TakesSide lons i side
  /-- If there is no such point, it is that of the first point with a side after the position. -/
  | after {j : ℕ} {side : Side} (noneBefore : ∀ k ≤ i, own? lons k = none)
    (first : IsLeast {k | i < k ∧ own? lons k ≠ none} j)
    (own : own? lons j = some side) : TakesSide lons i side
  /-- If no point has a side, it is the west if the first longitude beyond 90 degrees is
  negative. -/
  | tiesWest {j : ℕ} {lon : α} (ties : ∀ k, own? lons k = none)
    (first : IsLeast {k | IsFar lons k} j) (getElem?_eq : lons[j]? = some lon)
    (neg : lon < 0.0) : TakesSide lons i west
  /-- It is the east if that longitude is not negative, or if there is none. -/
  | tiesEast (ties : ∀ k, own? lons k = none)
    (not_neg : ∀ j lon, IsLeast {k | IsFar lons k} j → lons[j]? = some lon → ¬ lon < 0.0) :
    TakesSide lons i east

variable {lons : List α} {i j : ℕ} {side : Side}

lemma own?_eq_some_iff :
    own? lons i = some side ↔ ∃ lon, lons[i]? = some lon ∧ ofLongitude? lon = some side :=
  Option.bind_eq_some_iff

/-- On the line only ties have no side. -/
lemma exists_isTie_of_own?_eq_none (hi : i < lons.length) (h : own? lons i = none) :
    ∃ lon, lons[i]? = some lon ∧ IsTie lon := by
  have hlon : lons[i]? = some lons[i] := List.getElem?_eq_getElem hi
  refine ⟨_, hlon, ofLongitude?_eq_none_iff.1 ?_⟩
  rwa [own?, hlon, Option.bind_some] at h

/-- Up to the first point with a side, all points have the side from which the line sets out. -/
lemma getElem?_resolve_of_run (hi : i < lons.length) (h : ∀ k ≤ i, own? lons k = none) :
    (resolve lons)[i]? = some (ofStart lons) := by
  rw [getElem?_resolve_of_ties i.zero_le fun k _ hk =>
    exists_isTie_of_own?_eq_none (by omega) (h k hk)]
  obtain ⟨lon, hlon, htie⟩ := exists_isTie_of_own?_eq_none (by omega) (h 0 i.zero_le)
  obtain ⟨rest, rfl⟩ : ∃ rest, lons = lon :: rest := by
    rw [← List.head?_eq_getElem?] at hlon
    exact List.head?_eq_some_iff.1 hlon
  rw [resolve, List.map_cons, ofLongitude?_eq_none_iff.2 htie, inherit, List.getElem?_cons_zero]

/-- A line sets out from the side of its first point with a side. -/
lemma ofStart_of_first (first : IsLeast {k | own? lons k ≠ none} j)
    (own : own? lons j = some side) : ofStart lons = side := by
  obtain ⟨lon, hlon, hside⟩ := own?_eq_some_iff.1 own
  obtain ⟨hj, rfl⟩ := List.getElem?_eq_some_iff.1 hlon
  have hfirst : lons.findSome? ofLongitude? = some side := by
    refine List.findSome?_eq_some_iff.2
      ⟨lons.take j, lons[j], lons.drop (j + 1), by simp, hside, fun x hx => ?_⟩
    obtain ⟨k, hk, hx⟩ := List.mem_take_iff_getElem.1 hx
    by_contra hne
    -- a side before `j` would be the first one
    have hsome : own? lons k ≠ none := by
      rwa [own?, List.getElem?_eq_getElem (by omega), hx, Option.bind_some]
    have := first.2 hsome
    omega
  rw [ofStart, hfirst, Option.getD_some]

/-- If no point has a side, all points have the one that the ties decide. -/
lemma getElem?_resolve_of_own?_eq_none (hi : i < lons.length) (ties : ∀ k, own? lons k = none) :
    (resolve lons)[i]? = some (ofTies lons) := by
  have hnone : ∀ lon ∈ lons, ofLongitude? lon = none := by
    intro lon hlon
    obtain ⟨k, hk⟩ := List.mem_iff_getElem?.1 hlon
    have h := ties k
    rwa [own?, hk, Option.bind_some] at h
  rw [resolve_of_ties hnone, List.getElem?_replicate_of_lt hi]

/-- The search for a longitude beyond 90 degrees finds the first one. -/
lemma find?_far_eq_some_iff {lon : α} :
    lons.find? (fun lon => decide (90.0 < magnitude lon)) = some lon ↔
      ∃ j, IsLeast {k | IsFar lons k} j ∧ lons[j]? = some lon := by
  rw [List.find?_eq_some_iff_getElem]
  constructor
  · rintro ⟨hfar, j, hj, rfl, hbefore⟩
    have hlon : lons[j]? = some lons[j] := List.getElem?_eq_getElem hj
    refine ⟨j, ⟨⟨_, hlon, of_decide_eq_true hfar⟩, ?_⟩, hlon⟩
    rintro k ⟨other, hother, hkfar⟩
    by_contra hlt
    obtain ⟨hk, rfl⟩ := List.getElem?_eq_some_iff.1 hother
    have hnot := hbefore k (by omega)
    simp only [Bool.not_eq_true', decide_eq_false_iff_not] at hnot
    exact hnot hkfar
  · rintro ⟨j, ⟨⟨far, hfar, hlt⟩, hleast⟩, hlon⟩
    obtain rfl : far = lon := by
      rw [hfar] at hlon
      exact Option.some.inj hlon
    obtain ⟨hj, hget⟩ := List.getElem?_eq_some_iff.1 hlon
    refine ⟨decide_eq_true hlt, j, hj, hget, fun k hk => ?_⟩
    rw [Bool.not_eq_true', decide_eq_false_iff_not]
    intro hkfar
    have := hleast ⟨_, List.getElem?_eq_getElem (by omega), hkfar⟩
    omega

lemma ofTies_eq_west_iff :
    ofTies lons = west ↔
      ∃ j lon, IsLeast {k | IsFar lons k} j ∧ lons[j]? = some lon ∧ lon < 0.0 := by
  have hfound : ofTies lons = west ↔ ∃ lon,
      lons.find? (fun lon => decide (90.0 < magnitude lon)) = some lon ∧ lon < 0.0 := by
    unfold ofTies
    cases lons.find? fun lon => decide (90.0 < magnitude lon) with
    | none => simp
    | some lon => simp
  rw [hfound]
  constructor
  · rintro ⟨lon, hfind, hneg⟩
    obtain ⟨j, hleast, hlon⟩ := find?_far_eq_some_iff.1 hfind
    exact ⟨j, lon, hleast, hlon, hneg⟩
  · rintro ⟨j, lon, hleast, hlon, hneg⟩
    exact ⟨lon, find?_far_eq_some_iff.2 ⟨j, hleast, hlon⟩, hneg⟩

/-- What the rule says is what a point of the line has. -/
lemma TakesSide.getElem?_resolve (h : TakesSide lons i side) (hi : i < lons.length) :
    (resolve lons)[i]? = some side := by
  cases h with
  | before nearest own =>
    obtain ⟨⟨hji, -⟩, hgreatest⟩ := nearest
    obtain ⟨lon, hlon, hside⟩ := own?_eq_some_iff.1 own
    rw [← getElem?_resolve_of_some hlon hside]
    -- from the nearest point with a side to the position there are ties only
    refine getElem?_resolve_of_ties hji fun k hjk hki =>
      exists_isTie_of_own?_eq_none (by omega) ?_
    by_contra hne
    have := hgreatest ⟨hki, hne⟩
    omega
  | @after j _ noneBefore first own =>
    have hfirst : IsLeast {k | own? lons k ≠ none} j := by
      refine ⟨first.1.2, fun k hk => first.2 ⟨?_, hk⟩⟩
      by_contra hki
      exact hk (noneBefore k (by omega))
    rw [getElem?_resolve_of_run hi noneBefore, ofStart_of_first hfirst own]
  | tiesWest ties first hlon neg =>
    rw [getElem?_resolve_of_own?_eq_none hi ties,
      ofTies_eq_west_iff.2 ⟨_, _, first, hlon, neg⟩]
  | tiesEast ties not_neg =>
    have heast : ofTies lons = east := by
      refine (ofTies_mem lons).resolve_left fun hwest => ?_
      obtain ⟨j, lon, first, hlon, neg⟩ := ofTies_eq_west_iff.1 hwest
      exact not_neg j lon first hlon neg
    rw [getElem?_resolve_of_own?_eq_none hi ties, heast]

/-- The rule says something at every position. -/
lemma exists_takesSide (lons : List α) (i : ℕ) : ∃ side, TakesSide lons i side := by
  by_cases hbefore : ∃ k, k ≤ i ∧ own? lons k ≠ none
  · have hbdd : BddAbove {k | k ≤ i ∧ own? lons k ≠ none} := ⟨i, fun k hk => hk.1⟩
    obtain ⟨j, hj⟩ := hbdd.exists_isGreatest_of_nonempty hbefore
    obtain ⟨side, own⟩ := Option.ne_none_iff_exists'.1 hj.1.2
    exact ⟨side, .before hj own⟩
  have noneBefore : ∀ k ≤ i, own? lons k = none := by
    intro k hk
    by_contra hne
    exact hbefore ⟨k, hk, hne⟩
  by_cases hafter : ∃ k, i < k ∧ own? lons k ≠ none
  · have hleast := Nat.isLeast_find hafter
    obtain ⟨side, own⟩ := Option.ne_none_iff_exists'.1 hleast.1.2
    exact ⟨side, .after noneBefore hleast own⟩
  have ties : ∀ k, own? lons k = none := by
    intro k
    by_contra hne
    have hki : ¬ k ≤ i := fun hki => hne (noneBefore k hki)
    exact hafter ⟨k, by omega, hne⟩
  by_cases hwest : ∃ j lon, IsLeast {k | IsFar lons k} j ∧ lons[j]? = some lon ∧ lon < 0.0
  · obtain ⟨j, lon, first, hlon, neg⟩ := hwest
    exact ⟨west, .tiesWest ties first hlon neg⟩
  · exact ⟨east, .tiesEast ties fun j lon first hlon neg => hwest ⟨j, lon, first, hlon, neg⟩⟩

/-- At a position of the line the rule says which side the point has, and no other one. -/
lemma getElem?_resolve_iff :
    (resolve lons)[i]? = some side ↔ i < lons.length ∧ TakesSide lons i side := by
  refine ⟨fun h => ?_, fun ⟨hi, htakes⟩ => htakes.getElem?_resolve hi⟩
  have hi : i < lons.length := by
    rw [← length_resolve lons]
    exact (List.getElem?_eq_some_iff.1 h).1
  obtain ⟨other, hother⟩ := exists_takesSide lons i
  obtain rfl : side = other := by
    rw [hother.getElem?_resolve hi] at h
    exact (Option.some.inj h).symm
  exact ⟨hi, hother⟩

end Lines

end Side

/-! ### West and east -/

section Defined

variable {α : Type} [Scalar α]

/-- What is asked of the sine, so that a finite longitude is in the west, in the east, or a tie. -/
class DefinedSines (α : Type) [Scalar α] : Prop where
  /-- The sine of a finite longitude is positive, negative or zero. -/
  sign : ∀ {lon : α}, isFinite lon = true →
    0.0 < Side.seamSine lon ∨ Side.seamSine lon < 0.0 ∨ (Side.seamSine lon == 0.0) = true
  /-- Zero is below the tolerance. -/
  zero_small : ∀ {s : α}, (s == 0.0) = true → magnitude s < (Side.tieTolerance : α)

instance DefinedSines.real : DefinedSines ℝ where
  sign := by
    intro lon _
    rw [beq_zero_real]
    norm_num
    rcases lt_trichotomy (Side.seamSine lon) 0 with hneg | hzero | hpos
    · exact Or.inr (Or.inl hneg)
    · exact Or.inr (Or.inr hzero)
    · exact Or.inl hpos
  zero_small := by
    intro s hs
    rw [beq_zero_real.1 hs]
    norm_num [Side.tieTolerance]

namespace Side

lemma ofLongitude?_ne_undefined [DefinedSines α] {lon : α} (h : isFinite lon = true) :
    ofLongitude? lon ≠ some undefined := by
  intro hside
  have hmag : ¬ magnitude (seamSine lon) < (tieTolerance : α) := not_isTie_of_side hside
  rw [ofLongitude?, if_neg hmag] at hside
  rcases DefinedSines.sign h with hpos | hneg | hzero
  · rw [if_pos hpos] at hside
    contradiction
  · rw [if_pos hneg] at hside
    split at hside <;> contradiction
  · exact hmag (DefinedSines.zero_small hzero)

/-- The points of a line of finite longitudes are in the west or in the east. -/
lemma eq_west_or_eq_east_of_mem_resolve [DefinedSines α] {lons : List α}
    (hfinite : ∀ lon ∈ lons, isFinite lon = true) {side : Side} (h : side ∈ resolve lons) :
    side = west ∨ side = east := by
  rcases mem_resolve h with ⟨lon, hlon, hside⟩ | ⟨-, rfl⟩
  · cases side with
    | west => exact Or.inl rfl
    | east => exact Or.inr rfl
    | undefined => exact absurd hside (ofLongitude?_ne_undefined (hfinite lon hlon))
  · exact ofTies_mem lons

/-- **The side at each position.**  A line has as many sides as points.  Two scans find the same
sides, and leave no point without one.  The side at a position is the one that the rule gives, and
no other.  If the longitudes are finite, and the sine of a finite longitude can be compared with
zero, then all sides are west or east. -/
theorem resolve_takes_nearest_side (lons : List α) :
    (resolve lons).length = lons.length ∧
      twoScans lons = (resolve lons).map some ∧
      (∀ i side, (resolve lons)[i]? = some side ↔ i < lons.length ∧ TakesSide lons i side) ∧
      ([DefinedSines α] → (∀ lon ∈ lons, isFinite lon = true) →
        ∀ side ∈ resolve lons, side = west ∨ side = east) :=
  ⟨length_resolve lons, twoScans_eq lons, fun _ _ => getElem?_resolve_iff,
    fun hfinite _ => eq_west_or_eq_east_of_mem_resolve hfinite⟩

/-- A line that begins with ties and has another one further on, and a line of ties only. -/
theorem resolve_takes_nearest_side_of_ties :
    let line : List ℝ := [180, 0, -90, -180, 90]
    let ties : List ℝ := [0, -180, 180]
    (DefinedSines ℝ ∧ ∀ lon ∈ line, isFinite lon = true) ∧
      (TakesSide line 0 west ∧ (resolve line)[0]? = some west) ∧
      (TakesSide line 3 west ∧ (resolve line)[3]? = some west) ∧
      (TakesSide ties 2 west ∧ (resolve ties)[2]? = some west) ∧
      twoScans line = (resolve line).map some ∧
      ∀ side ∈ resolve line, side = west ∨ side = east := by
  intro line ties
  obtain ⟨-, hwest⟩ := ofLongitude?_quarter_turn
  obtain ⟨hzero, hseam, hseam'⟩ := ofLongitude?_meridians
  have hfinite : ∀ lon ∈ line, isFinite lon = true := fun _ _ => rfl
  have hown : own? line 0 = none ∧ own? line 1 = none ∧ own? line 2 = some west ∧
      own? line 3 = none := by
    simp [own?, line, hwest, hzero, hseam, hseam']
  obtain ⟨hown₀, hown₁, hown₂, hown₃⟩ := hown
  have hne {k j : ℕ} (hsome : own? line k ≠ none) (hnone : own? line j = none) : k ≠ j := by
    rintro rfl
    exact hsome hnone
  have hafter : TakesSide line 0 west := by
    refine .after (fun k hk => ?_) ⟨⟨by omega, by simp [hown₂]⟩, ?_⟩ hown₂
    · rwa [Nat.le_zero.1 hk]
    · rintro k ⟨hk, hsome⟩
      have := hne hsome hown₁
      omega
  have hbefore : TakesSide line 3 west := by
    refine .before ⟨⟨by omega, by simp [hown₂]⟩, ?_⟩ hown₂
    rintro k ⟨hk, hsome⟩
    have := hne hsome hown₃
    omega
  have hnone (k : ℕ) : own? ties k = none := by
    have hmem : ∀ lon ∈ ties, ofLongitude? lon = none := by
      simp [ties, hzero, hseam, hseam']
    exact Option.bind_eq_none_iff.2 fun lon hlon => hmem lon (List.mem_of_getElem? hlon)
  have hlon : ties[1]? = some (-180 : ℝ) := rfl
  have hfar : IsLeast {k | IsFar ties k} 1 := by
    refine ⟨⟨-180, hlon, by norm_num⟩, ?_⟩
    rintro k ⟨lon, hk, hfar⟩
    have hne : k ≠ 0 := by
      rintro rfl
      obtain rfl : lon = 0 := (Option.some.inj hk).symm
      norm_num at hfar
    omega
  have hties : TakesSide ties 2 west := .tiesWest hnone hfar hlon (by norm_num)
  obtain ⟨-, hscans, htakes, hdefined⟩ := resolve_takes_nearest_side line
  obtain ⟨-, -, htakes', -⟩ := resolve_takes_nearest_side ties
  exact ⟨⟨DefinedSines.real, hfinite⟩,
    ⟨hafter, (htakes 0 west).2 ⟨by simp [line], hafter⟩⟩,
    ⟨hbefore, (htakes 3 west).2 ⟨by simp [line], hbefore⟩⟩,
    ⟨hties, (htakes' 2 west).2 ⟨by simp [ties], hties⟩⟩, hscans, hdefined hfinite⟩

end Side

end Defined

end GreatCircle
