/-
# The order of a set

A set lists its numbers by their places in a table.  Every number has a code, which tells where to
look for a free place first, and where to go on from there: `probe`.  The table is more than twice
as large as the set unless the set is small.

Members other than numbers have no code here: a set that holds one is listed in the order in which
it was given.
-/
import GreatCircle.Data.Value

namespace GreatCircle.SetOrder

/-- Codes are taken modulo this prime. -/
def modulus : Nat := Nat.pow 2 61 - 1

/-- A code with its sign, as a word of 64 bits.  There is no code of minus one. -/
def word (negative : Bool) (code : Nat) : Nat :=
  if !negative then code
  else if code = 1 then Nat.pow 2 64 - 2
  else if code = 0 then 0
  else Nat.pow 2 64 - code

/-- The code of a double: the fraction that it is, modulo the prime, in which halving is a shift. -/
def codeOfFloat? (x : Float) : Option Nat :=
  match Binary.ofFloat x with
  | .finite negative m (.ofNat e) => some (word negative (m * Nat.pow 2 e % modulus))
  | .finite negative m (.negSucc e) =>
    some (word negative (m * Nat.pow 2 (61 - (e + 1) % 61) % modulus))
  | .infinite negative => some (word negative 314159)
  | _ => none

/-- The code of a member. -/
def code? : Value → Option Nat
  | .bool b => some (if b then 1 else 0)
  | .int n => some (word (decide (n < 0)) (n.natAbs % modulus))
  | .float x => codeOfFloat? x
  | _ => none

/-- The exponent of the number of places for a set of some size. -/
def tableBits (size : Nat) : Nat := if size < 5 then 3 else max 3 ((2 * size).log2 + 1)

/-- How many places after the one that is looked at are looked at too, unless the table ends. -/
def runLength : Nat := 9

/-- The first free place from a place on, in a table with `2 ^ bits` places; a part of the code
that has not been used yet is mixed in for every jump. -/
def probe (taken : List Nat) (bits : Nat) : Nat → Nat → Nat → Nat
  | 0, place, _ => place
  | bound + 1, place, rest =>
    let run := if place + runLength < Nat.pow 2 bits then runLength else 0
    match ((List.range (run + 1)).map (place + ·)).find? fun p => !taken.contains p with
    | some free => free
    | none =>
      let rest := rest / 32
      probe taken bits bound ((place * 5 + 1 + rest) % Nat.pow 2 bits) rest

/-- Members with their places, after one more. -/
def insert (bits : Nat) (placed : List (Nat × Value)) (member : Nat × Value) :
    List (Nat × Value) :=
  let (code, v) := member
  (probe (placed.map Prod.fst) bits (Nat.pow 2 bits + 13) (code % Nat.pow 2 bits) code, v) :: placed

/-- The members of a set in the order in which it lists them. -/
def sort (members : List Value) : List Value :=
  match members.mapM fun v => (code? v).map (·, v) with
  | none => members
  | some coded =>
    let placed := coded.foldl (insert (tableBits members.length)) []
    (placed.mergeSort fun a b => decide (a.1 ≤ b.1)).map Prod.snd

/-- Members that all have codes come with them, in their order. -/
theorem map_snd_of_mapM_code? (members : List Value) (coded : List (Nat × Value))
    (h : members.mapM (fun v => (code? v).map (·, v)) = some coded) :
    coded.map Prod.snd = members := by
  induction members generalizing coded with
  | nil => simp_all
  | cons v rest ih =>
    simp only [List.mapM_cons, Option.pure_def, Option.bind_eq_bind, Option.bind_eq_some_iff,
      Option.map_eq_some_iff, Option.some.injEq] at h
    obtain ⟨_, ⟨_, _, rfl⟩, more, hmore, rfl⟩ := h
    simp [ih more hmore]

/-- Every member that is put into the table stays in it. -/
theorem map_snd_foldl_insert (bits : Nat) (coded placed : List (Nat × Value)) :
    (coded.foldl (insert bits) placed).map Prod.snd =
      (coded.map Prod.snd).reverse ++ placed.map Prod.snd := by
  induction coded generalizing placed with
  | nil => rfl
  | cons member rest ih => simp [ih, insert]

/-- A set lists its members and nothing else. -/
theorem sort_perm (members : List Value) : (sort members).Perm members := by
  unfold sort
  split
  · exact .refl _
  · rename_i coded h
    refine ((List.mergeSort_perm _ _).map Prod.snd).trans ?_
    rw [map_snd_foldl_insert, map_snd_of_mapM_code? members coded h]
    simp

end GreatCircle.SetOrder
