/-
# Which rings are found

A value inside of another one has a place: the positions, from the outside in, that lead to it
through lists (`Value.at?`).  A ring is outermost if no value around it is a ring
(`Value.IsOutermostRing`); so nothing inside of an outermost ring is one.  This file shows that
`Value.rings` finds the outermost rings and nothing else, each once for each place where it
stands, in the order of the document, and unchanged: `Value.rings_outermost`.

Whether a list is a ring is told from its first item alone.  Lists of rings are never mistaken for
rings, however deep they are nested, since a position begins with a number and no ring does
(`Nesting.isRing_nest`).
-/
import Mathlib.Data.List.Infix
import Mathlib.Tactic.Lemma
import GreatCircle.GeoJson.Ring

namespace GreatCircle

namespace Value

/-- The value at a place.  A place leads through lists; each of its numbers is a position in one. -/
def at? : Value → List ℕ → Option Value
  | v, [] => some v
  | list items, i :: place => items[i]?.bind fun item => item.at? place
  | _, _ :: _ => none

/-- At the place there is a ring, and there is none around it. -/
structure IsOutermostRing (v : Value) (place : List ℕ) : Prop where
  ring : ∃ ring, v.at? place = some ring ∧ ring.isRing = true
  around : ∀ outer, outer <+: place → outer ≠ place → ∀ u, v.at? outer = some u → u.isRing = false

@[simp] lemma at?_nil (v : Value) : v.at? [] = some v := by
  cases v <;> rfl

@[simp] lemma at?_list_cons (items : List Value) (i : ℕ) (place : List ℕ) :
    (list items).at? (i :: place) = items[i]?.bind fun item => item.at? place := rfl

/-- The values through which a search for rings goes: a ring ends it, of any other list the items
are searched, and what is no list holds nothing. -/
@[elab_as_elim] theorem search_induction {motive : Value → Prop}
    (ring : ∀ v : Value, v.isRing = true → motive v)
    (items : ∀ items : List Value, (list items).isRing = false → (∀ v ∈ items, motive v) →
      motive (list items))
    (other : ∀ v : Value, (∀ items, v ≠ list items) → motive v) (v : Value) : motive v := by
  match v with
  | .list parts =>
    cases h : (Value.list parts).isRing with
    | true => exact ring _ h
    | false => exact items parts h fun part _ => search_induction ring items other part
  | .null | .bool _ | .int _ | .float _ | .text _ | .bytes _ | .moment _ | .pair .. | .set _
  | .object _ | .again _ => exact other _ fun _ => Value.noConfusion

/-! ### Places -/

/-- A value that is no list has no places inside. -/
lemma at?_cons_of_ne_list {v : Value} (h : ∀ items, v ≠ list items) (i : ℕ) (place : List ℕ) :
    v.at? (i :: place) = none := by
  cases v with
  | list items => exact absurd rfl (h items)
  | _ => rfl

lemma isRing_of_ne_list {v : Value} (h : ∀ items, v ≠ list items) : v.isRing = false := by
  cases v with
  | list items => exact absurd rfl (h items)
  | _ => rfl

/-- A ring has no outermost ring but itself. -/
lemma isOutermostRing_iff_of_isRing {v : Value} (h : v.isRing = true) {place : List ℕ} :
    v.IsOutermostRing place ↔ place = [] := by
  constructor
  · intro hplace
    by_contra hne
    have hnone := hplace.around [] List.nil_prefix (Ne.symm hne) v (at?_nil v)
    rw [h] at hnone
    contradiction
  · rintro rfl
    refine ⟨⟨v, at?_nil v, h⟩, fun outer hprefix hne => ?_⟩
    exact absurd (List.prefix_nil.1 hprefix) hne

lemma not_isOutermostRing_nil {v : Value} (h : v.isRing = false) : ¬ v.IsOutermostRing [] := by
  intro hplace
  obtain ⟨ring, hring, hisRing⟩ := hplace.ring
  obtain rfl : v = ring := by simpa using hring
  rw [h] at hisRing
  contradiction

/-- The outermost rings of a list that is no ring are those of its items. -/
lemma isOutermostRing_cons_iff {items : List Value} (h : (list items).isRing = false) {i : ℕ}
    {place : List ℕ} :
    (list items).IsOutermostRing (i :: place) ↔
      ∃ item, items[i]? = some item ∧ item.IsOutermostRing place := by
  constructor
  · rintro ⟨⟨ring, hring, hisRing⟩, haround⟩
    rw [at?_list_cons, Option.bind_eq_some_iff] at hring
    obtain ⟨item, hitem, hring⟩ := hring
    refine ⟨item, hitem, ⟨ring, hring, hisRing⟩, fun outer hprefix hne u hu => ?_⟩
    refine haround (i :: outer) ((List.prefix_cons_inj i).2 hprefix) ?_ u ?_
    · intro heq
      exact hne (List.cons.inj heq).2
    · rw [at?_list_cons, hitem, Option.bind_some, hu]
  · rintro ⟨item, hitem, ⟨ring, hring, hisRing⟩, haround⟩
    refine ⟨⟨ring, by rw [at?_list_cons, hitem, Option.bind_some, hring], hisRing⟩, ?_⟩
    intro outer hprefix hne u hu
    cases outer with
    | nil =>
      obtain rfl : list items = u := by simpa using hu
      exact h
    | cons j outer =>
      obtain ⟨rfl, houter⟩ := List.cons_prefix_cons.1 hprefix
      rw [at?_list_cons, hitem, Option.bind_some] at hu
      exact haround outer houter (fun heq => hne (by rw [heq])) u hu

lemma not_isOutermostRing_of_ne_list {v : Value} (h : ∀ items, v ≠ list items) (place : List ℕ) :
    ¬ v.IsOutermostRing place := by
  cases place with
  | nil => exact not_isOutermostRing_nil (isRing_of_ne_list h)
  | cons i place =>
    rintro ⟨⟨ring, hring, -⟩, -⟩
    rw [at?_cons_of_ne_list h] at hring
    contradiction

/-! ### The places in order -/

mutual

/-- The places of the outermost rings of a value, in order. -/
def ringPlaces : Value → List (List ℕ)
  | list items => if (list items).isRing then [[]] else ringPlacesFrom 0 items
  | _ => []

/-- The places of the outermost rings of items, the first of which has the given position. -/
def ringPlacesFrom (position : ℕ) : List Value → List (List ℕ)
  | [] => []
  | v :: rest => v.ringPlaces.map (position :: ·) ++ ringPlacesFrom (position + 1) rest

end

lemma ringPlaces_of_isRing {v : Value} (h : v.isRing = true) : v.ringPlaces = [[]] := by
  cases v with
  | list items => rw [ringPlaces, if_pos h]
  | _ => contradiction

lemma ringPlaces_of_not_isRing {items : List Value} (h : (list items).isRing = false) :
    (list items).ringPlaces = ringPlacesFrom 0 items := by
  rw [ringPlaces, if_neg (by simp [h])]

lemma ringPlaces_of_ne_list {v : Value} (h : ∀ items, v ≠ list items) : v.ringPlaces = [] := by
  cases v with
  | list items => exact absurd rfl (h items)
  | _ => rfl

lemma rings_of_not_isRing {items : List Value} (h : (list items).isRing = false) :
    (list items).rings = ringsOfItems items := by
  rw [rings, if_neg (by simp [h])]

lemma rings_of_ne_list {v : Value} (h : ∀ items, v ≠ list items) : v.rings = [] := by
  cases v with
  | list items => exact absurd rfl (h items)
  | _ => rfl

lemma mem_ringPlacesFrom_iff {position : ℕ} {items : List Value} {place : List ℕ} :
    place ∈ ringPlacesFrom position items ↔
      ∃ i item below, items[i]? = some item ∧ below ∈ item.ringPlaces ∧
        place = (position + i) :: below := by
  induction items generalizing position with
  | nil => simp [ringPlacesFrom]
  | cons v rest ih =>
    rw [ringPlacesFrom, List.mem_append, List.mem_map, ih]
    constructor
    · rintro (⟨below, hbelow, rfl⟩ | ⟨i, item, below, hitem, hbelow, rfl⟩)
      · exact ⟨0, v, below, rfl, hbelow, rfl⟩
      · exact ⟨i + 1, item, below, hitem, hbelow, by rw [Nat.add_right_comm, Nat.add_assoc]⟩
    · rintro ⟨i, item, below, hitem, hbelow, rfl⟩
      cases i with
      | zero =>
        obtain rfl : v = item := by simpa using hitem
        exact Or.inl ⟨below, hbelow, rfl⟩
      | succ i =>
        exact Or.inr ⟨i, item, below, hitem, hbelow, by rw [Nat.add_right_comm, Nat.add_assoc]⟩

/-- These are the places of the outermost rings, and no others. -/
lemma mem_ringPlaces_iff (v : Value) (place : List ℕ) :
    place ∈ v.ringPlaces ↔ v.IsOutermostRing place := by
  induction v using search_induction generalizing place with
  | ring v hring =>
    rw [ringPlaces_of_isRing hring, isOutermostRing_iff_of_isRing hring, List.mem_singleton]
  | other v hother =>
    rw [ringPlaces_of_ne_list hother]
    simpa using not_isOutermostRing_of_ne_list hother place
  | items items hring ih =>
    rw [ringPlaces_of_not_isRing hring, mem_ringPlacesFrom_iff]
    cases place with
    | nil => simpa using not_isOutermostRing_nil hring
    | cons i place =>
      rw [isOutermostRing_cons_iff hring]
      constructor
      · rintro ⟨j, item, below, hitem, hbelow, heq⟩
        obtain ⟨rfl, rfl⟩ := List.cons.inj heq
        rw [Nat.zero_add]
        exact ⟨item, hitem, (ih item (List.mem_of_getElem? hitem) _).1 hbelow⟩
      · rintro ⟨item, hitem, hbelow⟩
        refine ⟨i, item, place, hitem, (ih item (List.mem_of_getElem? hitem) _).2 hbelow, ?_⟩
        rw [Nat.zero_add]

lemma pairwise_ringPlacesFrom {items : List Value}
    (h : ∀ v ∈ items, v.ringPlaces.Pairwise (List.Lex (· < ·))) (position : ℕ) :
    (ringPlacesFrom position items).Pairwise (List.Lex (· < ·)) := by
  induction items generalizing position with
  | nil => exact List.Pairwise.nil
  | cons v rest ih =>
    rw [ringPlacesFrom, List.pairwise_append]
    refine ⟨?_, ih (fun u hu => h u (by simp [hu])) (position + 1), ?_⟩
    · rw [List.pairwise_map]
      exact (h v (by simp)).imp List.Lex.cons
    · -- whatever is in a later item comes later
      intro first hfirst second hsecond
      obtain ⟨below, -, rfl⟩ := List.mem_map.1 hfirst
      obtain ⟨i, item, below', -, -, rfl⟩ := mem_ringPlacesFrom_iff.1 hsecond
      exact List.Lex.rel (by omega)

/-- The places come in the order of the document. -/
lemma pairwise_ringPlaces (v : Value) : v.ringPlaces.Pairwise (List.Lex (· < ·)) := by
  induction v using search_induction with
  | ring v hring =>
    rw [ringPlaces_of_isRing hring]
    exact List.pairwise_singleton _ _
  | other v hother =>
    rw [ringPlaces_of_ne_list hother]
    exact List.Pairwise.nil
  | items items hring ih =>
    rw [ringPlaces_of_not_isRing hring]
    exact pairwise_ringPlacesFrom ih 0

lemma map_at?_ringPlacesFrom {items : List Value}
    (h : ∀ v ∈ items, v.ringPlaces.map v.at? = v.rings.map some) (before : List Value) :
    (ringPlacesFrom before.length items).map (list (before ++ items)).at? =
      (ringsOfItems items).map some := by
  induction items generalizing before with
  | nil => rfl
  | cons v rest ih =>
    have hfirst :
        ((list (before ++ v :: rest)).at? ∘ fun place => before.length :: place) = v.at? := by
      funext place
      rw [Function.comp_apply, at?_list_cons, List.getElem?_append_right le_rfl, Nat.sub_self,
        List.getElem?_cons_zero, Option.bind_some]
    have hrest := ih (fun u hu => h u (by simp [hu])) (before ++ [v])
    rw [List.length_append, List.length_singleton, List.append_assoc,
      List.singleton_append] at hrest
    rw [ringPlacesFrom, ringsOfItems, List.map_append, List.map_append, List.map_map, hfirst,
      h v (by simp), hrest]

/-- At the places stand the rings that are found. -/
lemma map_at?_ringPlaces (v : Value) : v.ringPlaces.map v.at? = v.rings.map some := by
  induction v using search_induction with
  | ring v hring =>
    rw [ringPlaces_of_isRing hring, rings_of_isRing hring]
    simp
  | other v hother =>
    rw [ringPlaces_of_ne_list hother, rings_of_ne_list hother]
    rfl
  | items items hring ih =>
    rw [ringPlaces_of_not_isRing hring, rings_of_not_isRing hring]
    exact map_at?_ringPlacesFrom ih []

end Value

/-! ### Nested rings -/

/-- Rings of positions, nested in lists to any depth. -/
inductive Nesting where
  /-- A ring of one position or more. -/
  | ring (first : {p : Value // p.isPosition = true})
    (more : List {p : Value // p.isPosition = true})
  /-- A list of rings and of such lists; it may be empty. -/
  | nest (parts : List Nesting)

namespace Nesting

mutual

/-- The value that is nested so. -/
def toValue : Nesting → Value
  | ring first more => .list (first.val :: more.map Subtype.val)
  | nest parts => .list (toValues parts)

/-- The values of the parts of a list. -/
def toValues : List Nesting → List Value
  | [] => []
  | part :: parts => part.toValue :: toValues parts

end

mutual

/-- The rings from left to right. -/
def leaves : Nesting → List Value
  | ring first more => [(ring first more).toValue]
  | nest parts => leavesOf parts

/-- The rings of the parts of a list from left to right. -/
def leavesOf : List Nesting → List Value
  | [] => []
  | part :: parts => part.leaves ++ leavesOf parts

end

lemma isNumber_of_isPosition {p : Value} (h : p.isPosition = true) : p.isNumber = false := by
  cases p with
  | list items => rfl
  | _ => contradiction

/-- A position begins with a number. -/
lemma isPosition_of_not_isNumber {first : Value} (h : first.isNumber = false) (rest : List Value) :
    (Value.list (first :: rest)).isPosition = false := by
  rcases rest with _ | ⟨second, _ | ⟨third, rest⟩⟩
  · rfl
  · rw [Value.isPosition, h, Bool.false_and]
  · rfl

lemma isNumber_toValue (n : Nesting) : n.toValue.isNumber = false := by
  cases n <;> rfl

lemma isPosition_toValue (n : Nesting) : n.toValue.isPosition = false := by
  cases n with
  | ring first more => exact isPosition_of_not_isNumber (isNumber_of_isPosition first.property) _
  | nest parts =>
    cases parts with
    | nil => rfl
    | cons first parts => exact isPosition_of_not_isNumber first.isNumber_toValue _

lemma isRing_ring (first : {p : Value // p.isPosition = true})
    (more : List {p : Value // p.isPosition = true}) : (ring first more).toValue.isRing = true :=
  first.property

/-- A list of rings, or of such lists, is no ring. -/
lemma isRing_nest (parts : List Nesting) : (nest parts).toValue.isRing = false := by
  cases parts with
  | nil => rfl
  | cons first parts => exact isPosition_toValue first

mutual

lemma rings_toValue (n : Nesting) : n.toValue.rings = n.leaves := by
  cases n with
  | ring first more => exact Value.rings_of_isRing (isRing_ring first more)
  | nest parts =>
    rw [leaves, ← ringsOfItems_toValues parts]
    exact Value.rings_of_not_isRing (isRing_nest parts)

lemma ringsOfItems_toValues (parts : List Nesting) :
    Value.ringsOfItems (toValues parts) = leavesOf parts := by
  cases parts with
  | nil => rfl
  | cons part parts =>
    rw [toValues, Value.ringsOfItems, rings_toValue part, ringsOfItems_toValues parts, leavesOf]

end

end Nesting

/-- **The outermost rings.**  There is one list of places that come in the order of the document and
are those of the outermost rings; the rings that are found are what stands there.  So from rings of
positions that are nested in any way, the rings come out from left to right. -/
theorem Value.rings_outermost :
    (∀ v : Value, ∃ places : List (List ℕ),
      places.Pairwise (List.Lex (· < ·)) ∧ (∀ place, place ∈ places ↔ v.IsOutermostRing place) ∧
        v.rings.map some = places.map v.at?) ∧
      ∀ n : Nesting, n.toValue.rings = n.leaves :=
  ⟨fun v => ⟨v.ringPlaces, v.pairwise_ringPlaces, v.mem_ringPlaces_iff, v.map_at?_ringPlaces.symm⟩,
    Nesting.rings_toValue⟩

end GreatCircle
