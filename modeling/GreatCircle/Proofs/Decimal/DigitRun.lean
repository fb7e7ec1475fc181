/-
# Runs of digits

A number is written with runs of digits.  The digits may be those of any script, and one underscore
may stand between two of them (`Numeral.DigitRun`).  Before a number is read its digits are written
in the common script and the underscores are taken out, which can be done just if each of them
stands between two digits (`Numeral.ungroup_eq_some_iff`); where nothing but digits is left there
was a run of digits (`Numeral.exists_allDigits_iff`).  A sign in front stays where it is
(`Numeral.exists_ungrouped_iff_sign`), and a text without white space at its ends is read as it
stands (`Numeral.bare_eq_map`).
-/
import GreatCircle.Decimal.Numeral
import GreatCircle.Proofs.Text.Trim

namespace GreatCircle

namespace Text

lemma isDigit_iff {c : Char} : c.isDigit = true ↔ 48 ≤ c.toNat ∧ c.toNat < 58 := by
  rw [Char.isDigit, Bool.and_eq_true, decide_eq_true_iff, decide_eq_true_iff]
  change 48 ≤ c.val.toNat ∧ c.val.toNat ≤ 57 ↔ 48 ≤ c.val.toNat ∧ c.val.toNat < 58
  omega

lemma digitValue?_lt {c : Char} {n : ℕ} (h : digitValue? c = some n) : n < 10 := by
  obtain ⟨start, hstart, rfl⟩ := Option.map_eq_some_iff.1 h
  have hrange := Array.find?_some hstart
  simp only [decide_eq_true_eq] at hrange
  omega

/-- The digits of the common script come first. -/
lemma digitValue?_of_isDigit {c : Char} (h : c.isDigit = true) :
    digitValue? c = some (c.toNat - '0'.toNat) := by
  have hrange := isDigit_iff.1 h
  have hzeros : digitZeros.toList = 48 :: digitZeros.toList.tail := rfl
  rw [digitValue?, ← Array.find?_toList, hzeros, List.find?_cons_of_pos (by simpa using hrange)]
  rfl

end Text

namespace Numeral

/-- The digit of the common script with a value. -/
def digit (n : ℕ) : Char := Char.ofNat ('0'.toNat + n)

lemma isDigit_digit : ∀ n < 10, (digit n).isDigit = true := by
  decide

lemma isSpace_digit : ∀ n < 10, isSpace (digit n) = false := by
  decide

lemma digitIn?_digit : ∀ n < 10, digitIn? 10 (digit n) = some n := by
  decide

lemma plainDigit_of_some {c : Char} {n : ℕ} (h : Text.digitValue? c = some n) :
    plainDigit c = digit n := by
  rw [plainDigit, h, digit]

lemma plainDigit_of_none {c : Char} (h : Text.digitValue? c = none) : plainDigit c = c := by
  rw [plainDigit, h]

/-- What becomes a digit of the common script was a digit of some script. -/
lemma isDigit_plainDigit (c : Char) :
    (plainDigit c).isDigit = (Text.digitValue? c).isSome := by
  cases h : Text.digitValue? c with
  | some n => rw [plainDigit_of_some h, isDigit_digit n (Text.digitValue?_lt h), Option.isSome_some]
  | none =>
    rw [plainDigit_of_none h, Option.isSome_none, ← Bool.not_eq_true]
    intro hdigit
    rw [Text.digitValue?_of_isDigit hdigit] at h
    contradiction

/-- A character that is no digit is what it was. -/
lemma plainDigit_eq_iff {c d : Char} (hd : Text.digitValue? d = none) :
    plainDigit c = d ↔ c = d := by
  cases h : Text.digitValue? c with
  | none => rw [plainDigit_of_none h]
  | some n =>
    have hdigit := isDigit_digit n (Text.digitValue?_lt h)
    constructor
    · intro heq
      rw [plainDigit_of_some h] at heq
      rw [heq] at hdigit
      rw [Text.digitValue?_of_isDigit hdigit] at hd
      contradiction
    · rintro rfl
      rw [h] at hd
      contradiction

lemma digitValue?_underscore : Text.digitValue? '_' = none := by decide

lemma plainDigit_underscore : plainDigit '_' = '_' := plainDigit_of_none digitValue?_underscore

lemma plainDigit_eq_underscore_iff {c : Char} : plainDigit c = '_' ↔ c = '_' :=
  plainDigit_eq_iff digitValue?_underscore

lemma ne_underscore_of_isSome {c : Char} (h : (Text.digitValue? c).isSome = true) : c ≠ '_' := by
  rintro rfl
  rw [digitValue?_underscore] at h
  contradiction

/-- Of the digits in base sixteen the letters are none in base ten. -/
lemma isSome_digitIn?_ten (c : Char) : (digitIn? 10 c).isSome = c.isDigit := by
  rw [digitIn?, Text.hexDigit?]
  cases hdigit : c.isDigit with
  | true =>
    have hrange := Text.isDigit_iff.1 hdigit
    have hsmall : c.toNat - 48 < 10 := by omega
    simp [hsmall]
  | false =>
    split
    · contradiction
    · split
      · simp
      · split <;> simp

/-! ### Underscores between digits -/

/-- Digits of any script, with at most one underscore between two of them, and their values. -/
inductive DigitRun : List Char → List ℕ → Prop
  | one {c : Char} {d : ℕ} (value : Text.digitValue? c = some d) : DigitRun [c] [d]
  | next {c : Char} {d : ℕ} {cs : List Char} {ds : List ℕ} (value : Text.digitValue? c = some d)
      (rest : DigitRun cs ds) : DigitRun (c :: cs) (d :: ds)
  | group {c : Char} {d : ℕ} {cs : List Char} {ds : List ℕ} (value : Text.digitValue? c = some d)
      (rest : DigitRun cs ds) : DigitRun (c :: '_' :: cs) (d :: ds)

/-- Characters, and what is left of them when the digits are written in the common script and the
underscores, each of which stands between two digits, are taken out. -/
inductive Ungrouped : List Char → List Char → Prop
  | nil : Ungrouped [] []
  | cons {c : Char} {cs ys : List Char} (h : c ≠ '_') (rest : Ungrouped cs ys) :
      Ungrouped (c :: cs) (plainDigit c :: ys)
  | group {d e : Char} {cs ys : List Char} (hd : (Text.digitValue? d).isSome = true)
      (he : (Text.digitValue? e).isSome = true) (rest : Ungrouped (e :: cs) ys) :
      Ungrouped (d :: '_' :: e :: cs) (plainDigit d :: ys)

namespace Ungrouped

variable {cs ys : List Char}

lemma head_ne_underscore (h : Ungrouped cs ys) : ∀ rest, cs ≠ '_' :: rest := by
  intro rest heq
  cases h with
  | nil => contradiction
  | cons hc _ => exact hc (List.cons.inj heq).1
  | group hd _ _ => exact ne_underscore_of_isSome hd (List.cons.inj heq).1

lemma of_ungroup (h : ungroup Char.isDigit (cs.map plainDigit) = some ys) : Ungrouped cs ys := by
  have hplain {c : Char} (hc : c = '_' → False) : plainDigit c = '_' → False :=
    mt plainDigit_eq_underscore_iff.1 hc
  induction cs using ungroup.induct (fun c => (Text.digitValue? c).isSome) generalizing ys with
  | case1 =>
    rw [List.map_nil, ungroup] at h
    rw [← Option.some.inj h]
    exact .nil
  | case2 rest =>
    rw [List.map_cons, plainDigit_underscore, ungroup] at h
    cases h
  | case3 d e rest hd hdigits ih =>
    rw [Bool.and_eq_true] at hdigits
    rw [List.map_cons, List.map_cons, List.map_cons, plainDigit_underscore,
      ungroup.eq_3 _ _ _ _ (hplain hd), isDigit_plainDigit, isDigit_plainDigit, hdigits.1,
      hdigits.2] at h
    obtain ⟨zs, hzs, rfl⟩ := Option.map_eq_some_iff.1 h
    exact .group hdigits.1 hdigits.2 (ih hzs)
  | case4 d e rest hd hdigits =>
    rw [List.map_cons, List.map_cons, List.map_cons, plainDigit_underscore,
      ungroup.eq_3 _ _ _ _ (hplain hd), isDigit_plainDigit, isDigit_plainDigit, if_neg hdigits] at h
    cases h
  | case5 c rest hc hrest ih =>
    have hmapped : ∀ e more, rest.map plainDigit = '_' :: e :: more → False := by
      intro e more heq
      obtain ⟨first, tail, rfl, hfirst, htail⟩ := List.map_eq_cons_iff.1 heq
      obtain ⟨second, more', rfl, -, -⟩ := List.map_eq_cons_iff.1 htail
      rw [plainDigit_eq_underscore_iff] at hfirst
      exact hrest second more' (by rw [hfirst])
    rw [List.map_cons, ungroup.eq_4 _ _ _ (hplain hc) hmapped] at h
    obtain ⟨zs, hzs, rfl⟩ := Option.map_eq_some_iff.1 h
    exact .cons hc (ih hzs)

lemma ungroup_eq (h : Ungrouped cs ys) :
    ungroup Char.isDigit (cs.map plainDigit) = some ys := by
  have hplain {c : Char} (hc : c ≠ '_') : plainDigit c ≠ '_' :=
    mt plainDigit_eq_underscore_iff.1 hc
  induction h with
  | nil => rfl
  | @cons c cs ys hc rest ih =>
    have hmapped : ∀ e more, cs.map plainDigit = '_' :: e :: more → False := by
      intro e more heq
      obtain ⟨first, tail, rfl, hfirst, -⟩ := List.map_eq_cons_iff.1 heq
      rw [plainDigit_eq_underscore_iff] at hfirst
      exact rest.head_ne_underscore tail (by rw [hfirst])
    rw [List.map_cons, ungroup.eq_4 _ _ _ (hplain hc) hmapped, ih, Option.map_some]
  | @group d e cs ys hd he rest ih =>
    rw [List.map_cons] at ih
    rw [List.map_cons, List.map_cons, List.map_cons, plainDigit_underscore,
      ungroup.eq_3 _ _ _ _ (hplain (ne_underscore_of_isSome hd)), isDigit_plainDigit,
      isDigit_plainDigit, hd, he, ih]
    rfl

/-- The next character, if it is no digit. -/
lemma exists_of_cons {y : Char} (hy : Text.digitValue? y = none) (h : Ungrouped cs (y :: ys)) :
    ∃ rest, cs = y :: rest ∧ Ungrouped rest ys := by
  generalize hall : y :: ys = all at h
  cases h with
  | nil => contradiction
  | cons _ rest =>
    obtain ⟨hfirst, rfl⟩ := List.cons.inj hall
    obtain rfl := (plainDigit_eq_iff hy).1 hfirst.symm
    exact ⟨_, rfl, rest⟩
  | group hd _ _ =>
    obtain ⟨hfirst, -⟩ := List.cons.inj hall
    rw [(plainDigit_eq_iff hy).1 hfirst.symm, hy] at hd
    contradiction

lemma nil_right (h : Ungrouped cs []) : cs = [] := by
  generalize hall : [] = all at h
  cases h with
  | nil => rfl
  | cons _ _ => contradiction
  | group _ _ _ => contradiction

lemma head?_eq {e : Char} (h : Ungrouped (e :: cs) ys) : ys.head? = some (plainDigit e) := by
  cases h with
  | cons _ _ => rfl
  | group _ _ _ => rfl

/-- What is left has been there, and is no underscore. -/
lemma exists_of_mem {y : Char} (h : Ungrouped cs ys) (hy : y ∈ ys) :
    ∃ c ∈ cs, c ≠ '_' ∧ y = plainDigit c := by
  induction h with
  | nil => contradiction
  | @cons c cs ys hc _ ih =>
    obtain rfl | hy := List.mem_cons.1 hy
    · exact ⟨c, List.mem_cons_self, hc, rfl⟩
    · obtain ⟨d, hd, hmark, rfl⟩ := ih hy
      exact ⟨d, List.mem_cons_of_mem _ hd, hmark, rfl⟩
  | @group d e cs ys hd he _ ih =>
    obtain rfl | hy := List.mem_cons.1 hy
    · exact ⟨d, List.mem_cons_self, ne_underscore_of_isSome hd, rfl⟩
    · obtain ⟨c, hc, hmark, rfl⟩ := ih hy
      exact ⟨c, List.mem_cons_of_mem _ (List.mem_cons_of_mem _ hc), hmark, rfl⟩

/-- The digits in front, underscores and all. -/
lemma exists_of_digits_append {us ys : List Char} (h : Ungrouped cs (us ++ ys)) (hne : us ≠ [])
    (hdigits : ∀ u ∈ us, u.isDigit = true) (hys : ∀ y ∈ ys.head?, y.isDigit = false) :
    ∃ front rest ds, cs = front ++ rest ∧ DigitRun front ds ∧ us = ds.map digit ∧
      Ungrouped rest ys := by
  generalize hall : us ++ ys = all at h
  induction h generalizing us with
  | nil =>
    obtain ⟨rfl, -⟩ := List.append_eq_nil_iff.1 hall
    contradiction
  | @cons c cs zs hc rest ih =>
    obtain ⟨u, us, rfl⟩ := List.exists_cons_of_ne_nil hne
    obtain ⟨rfl, rfl⟩ := List.cons.inj hall
    obtain ⟨hfirst, hmore⟩ := List.forall_mem_cons.1 hdigits
    rw [isDigit_plainDigit] at hfirst
    obtain ⟨d, hd⟩ := Option.isSome_iff_exists.1 hfirst
    by_cases hlast : us = []
    · subst hlast
      exact ⟨[c], cs, [d], rfl, .one hd, by rw [plainDigit_of_some hd]; rfl, rest⟩
    · obtain ⟨front, tail, ds, rfl, hrun, rfl, htail⟩ := ih hlast hmore rfl
      exact ⟨c :: front, tail, d :: ds, rfl, .next hd hrun, by rw [plainDigit_of_some hd]; rfl,
        htail⟩
  | @group c e cs zs hc he rest ih =>
    obtain ⟨u, us, rfl⟩ := List.exists_cons_of_ne_nil hne
    obtain ⟨rfl, rfl⟩ := List.cons.inj hall
    obtain ⟨-, hmore⟩ := List.forall_mem_cons.1 hdigits
    obtain ⟨d, hd⟩ := Option.isSome_iff_exists.1 hc
    -- after the underscore comes a digit, so these are not all
    have hlast : us ≠ [] := by
      rintro rfl
      have hhead := hys _ rest.head?_eq
      rw [isDigit_plainDigit, he] at hhead
      cases hhead
    obtain ⟨front, tail, ds, hcs, hrun, rfl, htail⟩ := ih hlast hmore rfl
    refine ⟨c :: '_' :: front, tail, d :: ds, ?_, .group hd hrun, ?_, htail⟩
    · rw [hcs]
      rfl
    · rw [plainDigit_of_some hd]
      rfl

end Ungrouped

/-- Digits of the common script and nothing else. -/
structure AllDigits (ys : List Char) : Prop where
  ne_nil : ys ≠ []
  isDigit : ∀ y ∈ ys, y.isDigit = true

lemma ungroup_eq_some_iff {cs ys : List Char} :
    ungroup Char.isDigit (cs.map plainDigit) = some ys ↔ Ungrouped cs ys :=
  ⟨Ungrouped.of_ungroup, Ungrouped.ungroup_eq⟩

namespace DigitRun

variable {cs : List Char} {ds : List ℕ}

lemma exists_cons (h : DigitRun cs ds) :
    ∃ c d rest more, cs = c :: rest ∧ ds = d :: more ∧ Text.digitValue? c = some d := by
  cases h with
  | one value => exact ⟨_, _, _, _, rfl, rfl, value⟩
  | next value _ => exact ⟨_, _, _, _, rfl, rfl, value⟩
  | group value _ => exact ⟨_, _, _, _, rfl, rfl, value⟩

lemma lt_ten (h : DigitRun cs ds) : ∀ d ∈ ds, d < 10 := by
  induction h with
  | one value =>
    intro d hd
    rw [List.mem_singleton.1 hd]
    exact Text.digitValue?_lt value
  | next value _ ih => exact List.forall_mem_cons.2 ⟨Text.digitValue?_lt value, ih⟩
  | group value _ ih => exact List.forall_mem_cons.2 ⟨Text.digitValue?_lt value, ih⟩

lemma allDigits (h : DigitRun cs ds) : AllDigits (ds.map digit) := by
  constructor
  · obtain ⟨_, _, _, _, _, rfl, _⟩ := h.exists_cons
    exact List.cons_ne_nil _ _
  · intro y hy
    obtain ⟨d, hd, rfl⟩ := List.mem_map.1 hy
    exact isDigit_digit d (h.lt_ten d hd)

lemma isSome_or_underscore (h : DigitRun cs ds) :
    ∀ c ∈ cs, (Text.digitValue? c).isSome = true ∨ c = '_' := by
  induction h with
  | one value => simp [value]
  | next value _ ih => simpa [value] using ih
  | group value _ ih => simpa [value] using ih

/-- Digits in front of characters that are taken already. -/
lemma ungrouped_append (h : DigitRun cs ds) {rest ys : List Char} (hrest : Ungrouped rest ys) :
    Ungrouped (cs ++ rest) (ds.map digit ++ ys) := by
  have hunderscore {c : Char} {d : ℕ} (value : Text.digitValue? c = some d) : c ≠ '_' :=
    ne_underscore_of_isSome (Option.isSome_of_eq_some value)
  induction h with
  | one value =>
    rw [List.map_singleton, ← plainDigit_of_some value]
    exact .cons (hunderscore value) hrest
  | next value _ ih =>
    rw [List.map_cons, ← plainDigit_of_some value]
    exact .cons (hunderscore value) ih
  | group value run ih =>
    obtain ⟨e, _, more, _, rfl, rfl, hvalue⟩ := run.exists_cons
    rw [List.map_cons, ← plainDigit_of_some value]
    exact .group (Option.isSome_of_eq_some value) (Option.isSome_of_eq_some hvalue) ih

lemma ungrouped (h : DigitRun cs ds) : Ungrouped cs (ds.map digit) := by
  simpa using h.ungrouped_append .nil

end DigitRun

/-- If nothing but digits are left there was nothing but digits and underscores. -/
lemma Ungrouped.exists_digitRun {cs ys : List Char} (h : Ungrouped cs ys) (hys : AllDigits ys) :
    ∃ ds, DigitRun cs ds ∧ ys = ds.map digit := by
  rw [← List.append_nil ys] at h
  obtain ⟨front, rest, ds, rfl, hrun, hds, hrest⟩ :=
    h.exists_of_digits_append hys.ne_nil hys.isDigit (by simp)
  rw [hrest.nil_right, List.append_nil]
  exact ⟨ds, hrun, hds⟩

lemma exists_allDigits_iff {cs : List Char} :
    (∃ ys, Ungrouped cs ys ∧ AllDigits ys) ↔ ∃ ds, DigitRun cs ds := by
  constructor
  · rintro ⟨ys, h, hys⟩
    obtain ⟨ds, hrun, -⟩ := h.exists_digitRun hys
    exact ⟨ds, hrun⟩
  · rintro ⟨ds, hrun⟩
    exact ⟨ds.map digit, hrun.ungrouped, hrun.allDigits⟩

/-! ### Signs -/

/-- Characters of some form, perhaps with a sign in front; whether that is a minus counts. -/
inductive Signed (form : Bool → List Char → Prop) : List Char → Prop
  | unsigned {cs : List Char} (h : form false cs) : Signed form cs
  | plus {cs : List Char} (h : form false cs) : Signed form ('+' :: cs)
  | minus {cs : List Char} (h : form true cs) : Signed form ('-' :: cs)

/-- There is no sign in front. -/
structure Unsigned (cs : List Char) : Prop where
  minus : cs.head? ≠ some '-'
  plus : cs.head? ≠ some '+'

lemma digitValue?_plus : Text.digitValue? '+' = none := by decide

lemma digitValue?_minus : Text.digitValue? '-' = none := by decide

lemma Unsigned.sign_eq {cs : List Char} (h : Unsigned cs) : sign cs = (false, cs) := by
  unfold sign
  split
  · exact absurd rfl h.minus
  · exact absurd rfl h.plus
  · rfl

lemma sign_cases (cs : List Char) :
    (∃ rest, cs = '-' :: rest) ∨ (∃ rest, cs = '+' :: rest) ∨ Unsigned cs := by
  by_cases hminus : cs.head? = some '-'
  · exact .inl (List.head?_eq_some_iff.1 hminus)
  · by_cases hplus : cs.head? = some '+'
    · exact .inr (.inl (List.head?_eq_some_iff.1 hplus))
    · exact .inr (.inr ⟨hminus, hplus⟩)

/-- What is left when the sign is taken off. -/
lemma signed_iff {form : Bool → List Char → Prop} {cs : List Char}
    (hform : ∀ negative cs, form negative cs → Unsigned cs) :
    Signed form cs ↔ form (sign cs).1 (sign cs).2 := by
  constructor
  · intro h
    cases h with
    | unsigned h => rwa [(hform _ _ h).sign_eq]
    | plus h => exact h
    | minus h => exact h
  · intro h
    obtain ⟨rest, rfl⟩ | ⟨rest, rfl⟩ | hunsigned := sign_cases cs
    · exact .minus h
    · exact .plus h
    · rw [hunsigned.sign_eq] at h
      exact .unsigned h

lemma DigitRun.unsigned_append {cs : List Char} {ds : List ℕ} (h : DigitRun cs ds)
    (rest : List Char) : Unsigned (cs ++ rest) := by
  obtain ⟨first, d, more, _, rfl, -, hvalue⟩ := h.exists_cons
  have hhead {c : Char} (hc : Text.digitValue? c = none) :
      (first :: more ++ rest).head? ≠ some c := by
    intro heq
    rw [List.cons_append, List.head?_cons, Option.some_inj] at heq
    rw [heq, hc] at hvalue
    contradiction
  exact ⟨hhead digitValue?_minus, hhead digitValue?_plus⟩

lemma DigitRun.unsigned {cs : List Char} {ds : List ℕ} (h : DigitRun cs ds) : Unsigned cs := by
  simpa using h.unsigned_append []

lemma unsigned_congr {xs ys : List Char}
    (h : ∀ c, Text.digitValue? c = none → (xs.head? = some c ↔ ys.head? = some c)) :
    Unsigned xs ↔ Unsigned ys := by
  have hminus := not_congr (h _ digitValue?_minus)
  have hplus := not_congr (h _ digitValue?_plus)
  exact ⟨fun hxs => ⟨hminus.1 hxs.minus, hplus.1 hxs.plus⟩,
    fun hys => ⟨hminus.2 hys.minus, hplus.2 hys.plus⟩⟩

lemma unsigned_map {cs : List Char} : Unsigned (cs.map plainDigit) ↔ Unsigned cs := by
  apply unsigned_congr
  intro d hd
  rw [List.head?_map, Option.map_eq_some_iff]
  simp only [plainDigit_eq_iff hd, exists_eq_right]

lemma sign_map (cs : List Char) :
    sign (cs.map plainDigit) = ((sign cs).1, (sign cs).2.map plainDigit) := by
  obtain ⟨rest, rfl⟩ | ⟨rest, rfl⟩ | hunsigned := sign_cases cs
  · rw [List.map_cons, plainDigit_of_none digitValue?_minus]
    rfl
  · rw [List.map_cons, plainDigit_of_none digitValue?_plus]
    rfl
  · rw [hunsigned.sign_eq, (unsigned_map.2 hunsigned).sign_eq]

lemma Ungrouped.unsigned_iff {cs ys : List Char} (h : Ungrouped cs ys) :
    Unsigned ys ↔ Unsigned cs := by
  apply unsigned_congr
  intro d hd
  cases h with
  | nil => rfl
  | cons _ _ => simp only [List.head?_cons, Option.some_inj, plainDigit_eq_iff hd]
  | group _ _ _ => simp only [List.head?_cons, Option.some_inj, plainDigit_eq_iff hd]

/-- A character that is neither digit nor underscore stays in front. -/
lemma Ungrouped.exists_cons_iff {c : Char} {cs : List Char} (hc : Text.digitValue? c = none)
    (hmark : c ≠ '_') (Q : List Char → Prop) :
    (∃ ys, Ungrouped (c :: cs) ys ∧ Q ys) ↔ ∃ ys, Ungrouped cs ys ∧ Q (c :: ys) := by
  constructor
  · rintro ⟨ys, hys, hQ⟩
    cases hys with
    | cons _ rest =>
      rw [plainDigit_of_none hc] at hQ
      exact ⟨_, rest, hQ⟩
    | group hd _ _ =>
      rw [hc] at hd
      contradiction
  · rintro ⟨ys, hys, hQ⟩
    have hcons := Ungrouped.cons hmark hys
    rw [plainDigit_of_none hc] at hcons
    exact ⟨_, hcons, hQ⟩

/-- The underscores are taken out of what follows the sign. -/
lemma exists_ungrouped_iff_sign (P : Bool → List Char → Prop) {cs : List Char} :
    (∃ ys, Ungrouped cs ys ∧ P (sign ys).1 (sign ys).2) ↔
      ∃ ys, Ungrouped (sign cs).2 ys ∧ P (sign cs).1 ys := by
  obtain ⟨rest, rfl⟩ | ⟨rest, rfl⟩ | hunsigned := sign_cases cs
  · exact Ungrouped.exists_cons_iff digitValue?_minus (by decide)
      fun ys => P (sign ys).1 (sign ys).2
  · exact Ungrouped.exists_cons_iff digitValue?_plus (by decide)
      fun ys => P (sign ys).1 (sign ys).2
  · rw [hunsigned.sign_eq]
    constructor
    · rintro ⟨ys, hys, hP⟩
      rw [(hys.unsigned_iff.2 hunsigned).sign_eq] at hP
      exact ⟨ys, hys, hP⟩
    · rintro ⟨ys, hys, hP⟩
      refine ⟨ys, hys, ?_⟩
      rwa [(hys.unsigned_iff.2 hunsigned).sign_eq]

/-! ### White space -/

/-- A text without white space at its ends is read as it stands. -/
lemma bare_eq_map {cs : List Char} (h : Text.strip (.ofChars cs) = .ofChars cs) :
    bare cs = cs.map plainDigit := by
  rw [Text.strip_eq_self_iff] at h
  have hspace {c : Char} (hc : Text.isBlank c = false) : isSpace (plainDigit c) = false := by
    cases hvalue : Text.digitValue? c with
    | none => rw [plainDigit_of_none hvalue, isSpace, hc, Bool.false_and]
    | some n =>
      rw [plainDigit_of_some hvalue]
      exact isSpace_digit n (Text.digitValue?_lt hvalue)
  rw [bare, Text.trim_eq_self_iff]
  constructor
  · intro hne
    rw [List.head_map]
    have hhead := h.head (by simpa [Text.ofChars] using hne)
    simp only [Text.ofChars, List.head_map] at hhead
    exact hspace hhead
  · intro hne
    rw [List.getLast_map]
    have hlast := h.last (by simpa [Text.ofChars] using hne)
    simp only [Text.ofChars, List.getLast_map] at hlast
    exact hspace hlast

end Numeral

end GreatCircle
