/-
# The texts that are read as numbers

Two grammars, one for whole numbers (`Numeral.IsInteger`) and one for doubles (`Numeral.IsDouble`).
A text that has no white space at its ends is read as the whole number that it stands for, and as
none if it stands for none (`Numeral.int?_eq_some_iff`), and it is read as a double just if it
stands for one (`Numeral.isSome_float?_iff`).
-/
import Mathlib.Data.Nat.Digits.Defs
import GreatCircle.Proofs.Decimal.DigitRun

namespace GreatCircle

lemma CodePoint.char?_eq_some_iff {c : CodePoint} {d : Char} :
    c.char? = some d ↔ c = ofChar d := by
  constructor
  · intro h
    rw [char?] at h
    split at h
    · contradiction
    · rename_i hhalf
      rw [isHalf, decide_eq_true_iff] at hhalf
      obtain rfl := Option.some.inj h
      have hvalid : c.val.isValidChar := by
        have hlt := c.lt
        simp only [Nat.isValidChar]
        omega
      obtain ⟨n, hn⟩ := c
      rw [ofChar, mk.injEq, Char.ofNat, dif_pos hvalid]
      rfl
  · rintro rfl
    exact char?_ofChar d

lemma Text.chars?_eq_some_iff {t : Text} {cs : List Char} :
    t.chars? = some cs ↔ t = ofChars cs := by
  constructor
  · obtain ⟨points⟩ := t
    intro h
    rw [ofChars, mk.injEq]
    induction points generalizing cs with
    | nil =>
      obtain rfl := Option.some.inj h
      rfl
    | cons c points ih =>
      simp only [chars?, List.mapM_cons, Option.pure_def, Option.bind_eq_bind,
        Option.bind_eq_some_iff, Option.some_inj] at h
      obtain ⟨d, hd, ds, hds, rfl⟩ := h
      rw [CodePoint.char?_eq_some_iff.1 hd, ih hds, List.map_cons]
  · rintro rfl
    exact chars?_ofChars cs

namespace Numeral

/-! ### Whole numbers -/

/-- The whole number of a list of digits, the leading one first. -/
def ofDigits (negative : Bool) (ds : List ℕ) : ℤ :=
  let n : ℤ := (Nat.ofDigits 10 ds.reverse : ℕ)
  if negative then -n else n

/-- Digits, not more than are read, and their number. -/
def WholeDigits (n : ℤ) (negative : Bool) (cs : List Char) : Prop :=
  ∃ ds, DigitRun cs ds ∧ ds.length ≤ digitLimit ∧ ofDigits negative ds = n

/-- A text that stands for a whole number: digits, not more than are read, and perhaps a sign in
front. -/
def IsInteger (t : Text) (n : ℤ) : Prop := ∃ cs, t = .ofChars cs ∧ Signed (WholeDigits n) cs

/-- In base ten there is nothing but the digits. -/
lemma dropBase_ten (cs : List Char) : dropBase 10 cs = cs := by
  unfold dropBase
  split
  · rfl
  · rfl

/-- The number of a list of digits of the common script. -/
def ofPlain (negative : Bool) (plain : List Char) : ℤ :=
  let n := plain.foldl (fun (n : ℤ) c => (10 : ℕ) * n + ((digitIn? 10 c).getD 0 : ℕ)) 0
  if negative then -n else n

lemma ofPlain_digits (negative : Bool) {ds : List ℕ} (hds : ∀ d ∈ ds, d < 10) :
    ofPlain negative (ds.map digit) = ofDigits negative ds := by
  have hfold : (ds.map digit).foldl
      (fun (n : ℤ) c => (10 : ℕ) * n + ((digitIn? 10 c).getD 0 : ℕ)) 0 =
        (Nat.ofDigits 10 ds.reverse : ℕ) := by
    induction ds using List.reverseRecOn with
    | nil => rfl
    | append_singleton ds d ih =>
      obtain ⟨hmore, hlast⟩ := List.forall_mem_append.1 hds
      have hd := digitIn?_digit d (hlast d (List.mem_singleton.2 rfl))
      rw [List.map_append, List.foldl_append, ih hmore, List.reverse_append]
      simp only [List.map_cons, List.map_nil, List.foldl_cons, List.foldl_nil, hd,
        Option.getD_some, List.reverse_singleton, List.singleton_append, Nat.ofDigits_cons]
      push_cast
      ring
  rw [ofPlain, hfold, ofDigits]

/-- What is read as a whole number in base ten: digits and underscores and nothing else, and not too
many digits. -/
lemma whole_ten_eq_ok_iff {cs : List Char} {n : ℤ} :
    whole 10 (Text.ofChars cs) = .ok n ↔
      ∃ plain, (∀ c ∈ (sign (bare cs)).2, c.isDigit = true ∨ c = '_') ∧
        ungroup Char.isDigit (sign (bare cs)).2 = some plain ∧ plain ≠ [] ∧
        plain.length ≤ digitLimit ∧ ofPlain (sign (bare cs)).1 plain = n := by
  rw [whole, Text.chars?_ofChars]
  simp only [dropBase_ten, isSome_digitIn?_ten, true_and]
  generalize (sign (bare cs)).1 = negative
  generalize (sign (bare cs)).2 = body
  set run := body.takeWhile fun c => c.isDigit || decide (c = '_') with hrun
  have hall : (∀ c ∈ body, c.isDigit = true ∨ c = '_') ↔ run = body := by
    rw [hrun, List.takeWhile_eq_self_iff]
    simp
  have hinitial : run <+: body := List.takeWhile_prefix _
  rw [hall]
  constructor
  · intro h
    split at h
    · rename_i plain hplain
      split at h
      · contradiction
      · rename_i hshort
        split at h
        · contradiction
        · rename_i hform
          rw [Bool.or_eq_true, decide_eq_true_iff, List.isEmpty_iff, not_or] at hform
          have hrest : run = body := hinitial.eq_of_length_le (by omega)
          exact ⟨plain, hrest, by rwa [← hrest], hform.1, by omega, Except.ok.inj h⟩
    · contradiction
  · rintro ⟨plain, hrest, hplain, hne, hshort, rfl⟩
    have hform : ¬(plain.isEmpty || decide (run.length < body.length)) = true := by
      simp [hrest, hne]
    rw [hrest] at hform
    rw [hrest, hplain]
    simp only [if_neg (by omega : ¬digitLimit < plain.length), if_neg hform]
    rfl

lemma exists_whole_iff {cs : List Char} {n : ℤ} {negative : Bool} :
    (∃ plain, (∀ c ∈ cs.map plainDigit, c.isDigit = true ∨ c = '_') ∧
        ungroup Char.isDigit (cs.map plainDigit) = some plain ∧ plain ≠ [] ∧
        plain.length ≤ digitLimit ∧ ofPlain negative plain = n) ↔
      WholeDigits n negative cs := by
  constructor
  · rintro ⟨plain, hall, hplain, hne, hshort, rfl⟩
    rw [ungroup_eq_some_iff] at hplain
    have hdigits : ∀ c ∈ plain, c.isDigit = true := by
      intro c hc
      obtain ⟨d, hd, hmark, rfl⟩ := hplain.exists_of_mem hc
      exact (hall _ (List.mem_map_of_mem hd)).resolve_right
        (mt plainDigit_eq_underscore_iff.1 hmark)
    obtain ⟨ds, hrun, rfl⟩ := hplain.exists_digitRun ⟨hne, hdigits⟩
    rw [List.length_map] at hshort
    exact ⟨ds, hrun, hshort, (ofPlain_digits negative hrun.lt_ten).symm⟩
  · rintro ⟨ds, hrun, hshort, rfl⟩
    refine ⟨ds.map digit, ?_, ungroup_eq_some_iff.2 hrun.ungrouped, hrun.allDigits.ne_nil, ?_,
      ofPlain_digits negative hrun.lt_ten⟩
    · intro c hc
      obtain ⟨d, hd, rfl⟩ := List.mem_map.1 hc
      rw [isDigit_plainDigit, plainDigit_eq_underscore_iff]
      exact hrun.isSome_or_underscore d hd
    · rwa [List.length_map]

/-- A text is read as the whole number that it stands for. -/
lemma int?_eq_some_iff {t : Text} {n : ℤ} (h : t.strip = t) : int? t = some n ↔ IsInteger t n := by
  have hwhole : int? t = some n ↔ whole 10 t = .ok n := by
    rw [int?]
    cases whole 10 t <;> simp [Except.toOption]
  have hform : ∀ negative cs, WholeDigits n negative cs → Unsigned cs := by
    rintro negative cs ⟨ds, hrun, -⟩
    exact hrun.unsigned
  simp only [hwhole, IsInteger, ← Text.chars?_eq_some_iff]
  cases hchars : t.chars? with
  | none => simp [whole, hchars]
  | some cs =>
    obtain rfl := Text.chars?_eq_some_iff.1 hchars
    rw [whole_ten_eq_ok_iff, bare_eq_map h, sign_map, exists_whole_iff, ← signed_iff hform]
    simp

example : int? (Text.ofString "-1_0٣") = some (-103) ∧ int? (Text.ofString "1__0") = none := by
  decide

/-! ### Doubles -/

/-- Digits, or none. -/
inductive DigitsOrNone : List Char → List ℕ → Prop
  | none : DigitsOrNone [] []
  | some {cs : List Char} {ds : List ℕ} (digits : DigitRun cs ds) : DigitsOrNone cs ds

/-- Digits with at most one point before, among or after them. -/
inductive Mantissa : List Char → Prop
  | whole {cs : List Char} {ds : List ℕ} (digits : DigitRun cs ds) : Mantissa cs
  | point {cs places : List Char} {ds es : List ℕ} (digits : DigitsOrNone cs ds)
      (after : DigitsOrNone places es) (some : ds ++ es ≠ []) : Mantissa (cs ++ '.' :: places)

/-- Nothing, or a letter with a whole number, which may be of any length. -/
inductive Power : List Char → Prop
  | none : Power []
  | some {letter : Char} {cs : List Char} (hletter : letter = 'e' ∨ letter = 'E')
      (number : Signed (fun _ cs => ∃ ds, DigitRun cs ds) cs) : Power (letter :: cs)

/-- The words for infinity and for no number. -/
def words : List (List Char) := ["inf".toList, "infinity".toList, "nan".toList]

/-- What may stand for a double after a sign. -/
inductive DoubleBody : List Char → Prop
  | word {cs : List Char} (h : cs.map Char.toLower ∈ words) : DoubleBody cs
  | decimal {cs power : List Char} (mantissa : Mantissa cs) (hpower : Power power) :
      DoubleBody (cs ++ power)

/-- A text that stands for a double. -/
def IsDouble (t : Text) : Prop := ∃ cs, t = .ofChars cs ∧ Signed (fun _ => DoubleBody) cs

/-! ### Powers of ten -/

lemma isSome_power?_cons {letter : Char} {ys : List Char} :
    (power? (letter :: ys)).isSome = true ↔
      (letter = 'e' ∨ letter = 'E') ∧ AllDigits (sign ys).2 := by
  have hdigits : AllDigits (sign ys).2 ↔
      (!(sign ys).2.isEmpty && (sign ys).2.all Char.isDigit) = true := by
    rw [Bool.and_eq_true, List.all_eq_true, Bool.not_eq_true', List.isEmpty_eq_false_iff]
    exact ⟨fun h => ⟨h.ne_nil, h.isDigit⟩, fun h => ⟨h.1, h.2⟩⟩
  rw [power?, hdigits]
  split
  · rename_i hletter
    simp only [hletter, true_and]
    split
    · rename_i h
      simp [h]
    · rename_i h
      simp [h]
  · rename_i hletter
    simp [hletter]

lemma exists_power_iff {cs : List Char} :
    (∃ ys, Ungrouped cs ys ∧ (power? ys).isSome = true) ↔ Power cs := by
  have hvalue {letter : Char} (hletter : letter = 'e' ∨ letter = 'E') :
      Text.digitValue? letter = none ∧ letter ≠ '_' := by
    rcases hletter with rfl | rfl <;> decide
  have hnumber (rest : List Char) : (∃ ys, Ungrouped rest ys ∧ AllDigits (sign ys).2) ↔
      Signed (fun _ cs => ∃ ds, DigitRun cs ds) rest := by
    rw [exists_ungrouped_iff_sign fun _ ys => AllDigits ys, exists_allDigits_iff, signed_iff]
    rintro _ cs ⟨ds, hrun⟩
    exact hrun.unsigned
  constructor
  · rintro ⟨ys, hys, hpower⟩
    cases ys with
    | nil =>
      rw [hys.nil_right]
      exact .none
    | cons letter ys =>
      obtain ⟨hletter, hdigits⟩ := isSome_power?_cons.1 hpower
      obtain ⟨rest, rfl, hrest⟩ := hys.exists_of_cons (hvalue hletter).1
      exact .some hletter ((hnumber rest).1 ⟨ys, hrest, hdigits⟩)
  · intro h
    cases h with
    | none => exact ⟨[], .nil, rfl⟩
    | some hletter number =>
      rw [Ungrouped.exists_cons_iff (hvalue hletter).1 (hvalue hletter).2]
      obtain ⟨ys, hys, hdigits⟩ := (hnumber _).2 number
      exact ⟨ys, hys, isSome_power?_cons.2 ⟨hletter, hdigits⟩⟩

/-! ### Decimals -/

/-- The digits in front, if there are any. -/
lemma Ungrouped.exists_digitsOrNone {cs ys : List Char} (h : Ungrouped cs ys) :
    ∃ front rest ds, cs = front ++ rest ∧ DigitsOrNone front ds ∧
      ys.takeWhile Char.isDigit = ds.map digit ∧ Ungrouped rest (ys.dropWhile Char.isDigit) := by
  by_cases hnone : ys.takeWhile Char.isDigit = []
  · have hrest : ys.dropWhile Char.isDigit = ys := by
      have happend := ys.takeWhile_append_dropWhile (p := Char.isDigit)
      rwa [hnone, List.nil_append] at happend
    exact ⟨[], cs, [], rfl, .none, hnone, by rwa [hrest]⟩
  · rw [← ys.takeWhile_append_dropWhile (p := Char.isDigit)] at h
    have hhead : ∀ y ∈ (ys.dropWhile Char.isDigit).head?, y.isDigit = false := by
      intro y hy
      have hfirst := List.head?_dropWhile_not Char.isDigit ys
      rwa [Option.mem_def.1 hy] at hfirst
    obtain ⟨front, rest, ds, hcs, hrun, hds, hrest⟩ := h.exists_of_digits_append hnone
      (fun u hu => List.mem_takeWhile_imp hu) hhead
    exact ⟨front, rest, ds, hcs, .some hrun, hds, hrest⟩

lemma DigitsOrNone.ungrouped_append {cs rest ys : List Char} {ds : List ℕ}
    (h : DigitsOrNone cs ds) (hrest : Ungrouped rest ys) :
    Ungrouped (cs ++ rest) (ds.map digit ++ ys) := by
  cases h with
  | none => exact hrest
  | some digits => exact digits.ungrouped_append hrest

lemma DigitsOrNone.digitRun {cs : List Char} {ds : List ℕ} (h : DigitsOrNone cs ds)
    (hne : ds ≠ []) : DigitRun cs ds := by
  cases h with
  | none => contradiction
  | some digits => exact digits

/-- What stands in front of a power, or of nothing, is read up to there. -/
lemma DigitsOrNone.takeWhile_dropWhile {cs ys : List Char} {ds : List ℕ}
    (h : DigitsOrNone cs ds) (hys : ∀ y ∈ ys.head?, y.isDigit = false) :
    (ds.map digit ++ ys).takeWhile Char.isDigit = ds.map digit ∧
      (ds.map digit ++ ys).dropWhile Char.isDigit = ys := by
  have hdigits : ∀ y ∈ ds.map digit, y.isDigit = true := by
    cases h with
    | none => simp
    | some digits => exact digits.allDigits.isDigit
  have hrest : ys.dropWhile Char.isDigit = ys := by
    cases ys with
    | nil => rfl
    | cons y ys => rw [List.dropWhile_cons_of_neg (by simp [hys y rfl])]
  have hnone : ys.takeWhile Char.isDigit = [] := by
    cases ys with
    | nil => rfl
    | cons y ys => rw [List.takeWhile_cons_of_neg (by simp [hys y rfl])]
  rw [List.takeWhile_append_of_pos hdigits, List.dropWhile_append_of_pos hdigits, hrest, hnone,
    List.append_nil]
  exact ⟨rfl, rfl⟩

/-- A power begins with its letter. -/
lemma head?_of_power? {ys : List Char} (h : (power? ys).isSome = true) :
    ∀ y ∈ ys.head?, y = 'e' ∨ y = 'E' := by
  cases ys with
  | nil => simp
  | cons y ys => simpa using (isSome_power?_cons.1 h).1

lemma isSome_ite_map_iff {whole places : List Char} {power : Option ℤ} {f : ℤ → Decimal} :
    (if (whole.isEmpty && places.isEmpty) = true then none else power.map f).isSome = true ↔
      whole ++ places ≠ [] ∧ power.isSome = true := by
  have hempty : (whole.isEmpty && places.isEmpty) = true ↔ whole ++ places = [] := by simp
  by_cases h : whole ++ places = []
  · rw [if_pos (hempty.2 h)]
    simp [h]
  · rw [if_neg (mt hempty.1 h), Option.isSome_map]
    simp [h]

lemma isSome_decimal?_of_point {negative : Bool} {ys rest : List Char}
    (h : ys.dropWhile Char.isDigit = '.' :: rest) :
    (decimal? negative ys).isSome = true ↔
      ys.takeWhile Char.isDigit ++ rest.takeWhile Char.isDigit ≠ [] ∧
        (power? (rest.dropWhile Char.isDigit)).isSome = true := by
  simp only [decimal?, h]
  exact isSome_ite_map_iff

lemma isSome_decimal?_of_no_point {negative : Bool} {ys : List Char}
    (h : (ys.dropWhile Char.isDigit).head? ≠ some '.') :
    (decimal? negative ys).isSome = true ↔
      ys.takeWhile Char.isDigit ≠ [] ∧ (power? (ys.dropWhile Char.isDigit)).isSome = true := by
  rw [← List.append_nil (ys.takeWhile Char.isDigit)]
  simp only [decimal?]
  split
  · rename_i hpoint
    rw [hpoint] at h
    contradiction
  · exact isSome_ite_map_iff

/-- What is read as a decimal is a mantissa with a power. -/
lemma Ungrouped.exists_mantissa {cs ys : List Char} {negative : Bool} (hys : Ungrouped cs ys)
    (h : (decimal? negative ys).isSome = true) :
    ∃ mantissa power, cs = mantissa ++ power ∧ Mantissa mantissa ∧ Power power := by
  obtain ⟨front, rest, ds, rfl, hfront, hds, hrest⟩ := hys.exists_digitsOrNone
  by_cases hpoint : (ys.dropWhile Char.isDigit).head? = some '.'
  · obtain ⟨after, hafter⟩ := List.head?_eq_some_iff.1 hpoint
    obtain ⟨hsome, hpower⟩ := (isSome_decimal?_of_point hafter).1 h
    rw [hafter] at hrest
    obtain ⟨tail, rfl, htail⟩ := hrest.exists_of_cons (by decide)
    obtain ⟨places, power, es, rfl, hplaces, hes, hpowerOf⟩ := htail.exists_digitsOrNone
    rw [hds, hes, ← List.map_append, ne_eq, List.map_eq_nil_iff] at hsome
    exact ⟨front ++ '.' :: places, power, by simp, .point hfront hplaces hsome,
      exists_power_iff.1 ⟨_, hpowerOf, hpower⟩⟩
  · obtain ⟨hsome, hpower⟩ := (isSome_decimal?_of_no_point hpoint).1 h
    rw [hds, ne_eq, List.map_eq_nil_iff] at hsome
    exact ⟨front, rest, rfl, .whole (hfront.digitRun hsome),
      exists_power_iff.1 ⟨_, hrest, hpower⟩⟩

/-- A mantissa with a power is read as a decimal. -/
lemma Mantissa.exists_decimal {cs power : List Char} (h : Mantissa cs) (hpower : Power power)
    (negative : Bool) :
    ∃ ys, Ungrouped (cs ++ power) ys ∧ (decimal? negative ys).isSome = true := by
  obtain ⟨ys, hys, hpower⟩ := exists_power_iff.2 hpower
  have hhead := head?_of_power? hpower
  have hdigit : ∀ y ∈ ys.head?, y.isDigit = false := by
    intro y hy
    obtain rfl | rfl := hhead y hy <;> rfl
  cases h with
  | whole digits =>
    obtain ⟨htake, hdrop⟩ := (DigitsOrNone.some digits).takeWhile_dropWhile hdigit
    refine ⟨_, digits.ungrouped_append hys, ?_⟩
    rw [isSome_decimal?_of_no_point, htake, hdrop]
    · exact ⟨digits.allDigits.ne_nil, hpower⟩
    · rw [hdrop]
      intro hpoint
      obtain h | h := hhead '.' hpoint <;> contradiction
  | @point cs places ds es digits after some =>
    have hpoint := Ungrouped.cons (by decide : '.' ≠ '_') (after.ungrouped_append hys)
    rw [plainDigit_of_none (by decide : Text.digitValue? '.' = none)] at hpoint
    have hmark : ∀ y ∈ ('.' :: (es.map digit ++ ys)).head?, y.isDigit = false := by simp
    obtain ⟨htake, hdrop⟩ := digits.takeWhile_dropWhile hmark
    obtain ⟨htake', hdrop'⟩ := after.takeWhile_dropWhile hdigit
    refine ⟨_, by simpa using digits.ungrouped_append hpoint, ?_⟩
    rw [isSome_decimal?_of_point hdrop, htake, htake', hdrop', ← List.map_append, ne_eq,
      List.map_eq_nil_iff]
    exact ⟨some, hpower⟩

/-! ### Words -/

lemma digitValue?_eq_none {c : Char} (h : 58 ≤ c.toNat) (h' : c.toNat < 1632) :
    Text.digitValue? c = none := by
  have hzeros : ∀ start ∈ Text.digitZeros.toList, start = 48 ∨ 1632 ≤ start := by decide
  rw [Text.digitValue?, Option.map_eq_none_iff, ← Array.find?_toList, List.find?_eq_none]
  intro start hstart
  rw [decide_eq_true_iff]
  obtain rfl | hlarge := hzeros start hstart
  · omega
  · omega

/-- A letter that may be written small or capital. -/
lemma of_toLower {c : Char} (h : 97 ≤ c.toLower.toNat ∧ c.toLower.toNat < 123) :
    Text.digitValue? c = none ∧ c ≠ '_' := by
  have hrange : 65 ≤ c.toNat ∧ c.toNat < 123 ∧ c.toNat ≠ 95 := by
    unfold Char.toLower at h
    split at h
    · rename_i hcapital
      have hcode : 65 ≤ c.toNat ∧ c.toNat ≤ 90 := hcapital
      omega
    · omega
  constructor
  · exact digitValue?_eq_none (by omega) (by omega)
  · rintro rfl
    exact hrange.2.2 rfl

/-- Letters are read as they stand. -/
lemma exists_word_iff {word cs : List Char} (hword : ∀ c ∈ word, 97 ≤ c.toNat ∧ c.toNat < 123) :
    (∃ ys, Ungrouped cs ys ∧ ys.map Char.toLower = word) ↔ cs.map Char.toLower = word := by
  constructor
  · rintro ⟨ys, hys, rfl⟩
    induction ys generalizing cs with
    | nil => rw [hys.nil_right]
    | cons y ys ih =>
      obtain ⟨hy, hmore⟩ := List.forall_mem_cons.1 hword
      obtain ⟨rest, rfl, hrest⟩ := hys.exists_of_cons (of_toLower hy).1
      rw [List.map_cons, List.map_cons, ih hrest hmore]
  · rintro rfl
    refine ⟨cs, ?_, rfl⟩
    induction cs with
    | nil => exact .nil
    | cons c cs ih =>
      obtain ⟨hc, hmore⟩ := List.forall_mem_cons.1 hword
      have hcons := Ungrouped.cons (of_toLower hc).2 (ih hmore)
      rwa [plainDigit_of_none (of_toLower hc).1] at hcons

/-! ### What is read as a double -/

lemma isSome_plainFloat? {ys : List Char} : (plainFloat? ys).isSome = true ↔
    (sign ys).2.map Char.toLower ∈ words ∨ (decimal? (sign ys).1 (sign ys).2).isSome = true := by
  have hword (w : String) :
      String.ofList ((sign ys).2.map Char.toLower) = w ↔
        (sign ys).2.map Char.toLower = w.toList := by
    rw [← String.toList_inj, String.toList_ofList]
  simp only [plainFloat?, hword, words, List.mem_cons, List.not_mem_nil, or_false]
  split
  · rename_i hinfinity
    simp only [Option.isSome_some, true_iff]
    tauto
  · rename_i hfinite
    split
    · rename_i hnan
      simp [hnan]
    · rename_i hnumber
      rw [Option.isSome_map]
      tauto

lemma Mantissa.unsigned {cs : List Char} (h : Mantissa cs) (rest : List Char) :
    Unsigned (cs ++ rest) := by
  cases h with
  | whole digits => exact digits.unsigned_append rest
  | point digits _ _ =>
    cases digits with
    | none => constructor <;> simp
    | some digits =>
      rw [List.append_assoc]
      exact digits.unsigned_append _

lemma DoubleBody.unsigned {cs : List Char} (h : DoubleBody cs) : Unsigned cs := by
  cases h with
  | word h =>
    have hwords : ∀ word ∈ words, word.head? ≠ some '-' ∧ word.head? ≠ some '+' := by decide
    obtain ⟨hminus, hplus⟩ := hwords _ h
    rw [List.head?_map] at hminus hplus
    constructor
    · intro hsign
      exact hminus (by rw [hsign]; rfl)
    · intro hsign
      exact hplus (by rw [hsign]; rfl)
  | decimal mantissa _ => exact mantissa.unsigned _

lemma words_letters : ∀ word ∈ words, ∀ c ∈ word, 97 ≤ c.toNat ∧ c.toNat < 123 := by
  simp [words]

/-- What follows the sign is one of the words or a decimal. -/
lemma exists_doubleBody_iff {cs : List Char} {negative : Bool} :
    (∃ ys, Ungrouped cs ys ∧
      (ys.map Char.toLower ∈ words ∨ (decimal? negative ys).isSome = true)) ↔ DoubleBody cs := by
  constructor
  · rintro ⟨ys, hys, hword | hdecimal⟩
    · refine .word ?_
      rwa [(exists_word_iff (words_letters _ hword)).1 ⟨ys, hys, rfl⟩]
    · obtain ⟨mantissa, power, rfl, hmantissa, hpower⟩ := hys.exists_mantissa hdecimal
      exact .decimal hmantissa hpower
  · intro h
    cases h with
    | word h =>
      obtain ⟨ys, hys, hword⟩ := (exists_word_iff (words_letters _ h)).2 rfl
      exact ⟨ys, hys, .inl (by rwa [hword])⟩
    | decimal mantissa hpower =>
      obtain ⟨ys, hys, hdecimal⟩ := mantissa.exists_decimal hpower negative
      exact ⟨ys, hys, .inr hdecimal⟩

lemma exists_plainFloat_iff (cs : List Char) :
    (∃ ys, Ungrouped cs ys ∧ (plainFloat? ys).isSome = true) ↔
      Signed (fun _ => DoubleBody) cs := by
  have hform : ∀ (negative : Bool) cs, DoubleBody cs → Unsigned cs := fun _ _ h => h.unsigned
  simp only [isSome_plainFloat?]
  rw [exists_ungrouped_iff_sign fun negative ys =>
      ys.map Char.toLower ∈ words ∨ (decimal? negative ys).isSome = true,
    exists_doubleBody_iff, signed_iff hform]

/-- A text is read as a double just if it stands for one. -/
lemma isSome_float?_iff {t : Text} (h : t.strip = t) : (float? t).isSome = true ↔ IsDouble t := by
  simp only [IsDouble, ← Text.chars?_eq_some_iff]
  cases hchars : t.chars? with
  | none => simp [float?, hchars]
  | some cs =>
    obtain rfl := Text.chars?_eq_some_iff.1 hchars
    have hform := exists_plainFloat_iff cs
    rw [float?, hchars]
    simp only [← ungroup_eq_some_iff] at hform
    simp only [Option.bind_eq_bind, Option.bind_some, bare_eq_map h]
    cases hplain : ungroup Char.isDigit (cs.map plainDigit) with
    | none => simpa [hplain] using hform
    | some ys => simpa [hplain] using hform

end Numeral

end GreatCircle
