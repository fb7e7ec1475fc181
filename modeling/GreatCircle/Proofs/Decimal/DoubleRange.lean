/-
# Whole numbers beyond all doubles

A whole number is read as the double nearest to it.  The largest double is `2 ^ 1024 - 2 ^ 971`;
the next number of 53 bits would be `2 ^ 1024`, and what is nearer to that one has no double.  The
number half way between the two goes to the one with the even mantissa, which is `2 ^ 1024`.  So the
whole numbers without a double are those from `2 ^ 1024 - 2 ^ 970` on
(`Decimal.ofInt?_eq_none_iff`).

Doubles are modelled as mantissas and exponents that are rounded and packed into bits.  The first
part says when a number is packed as infinity, the second one follows a whole number to that point.
-/
import Mathlib
import GreatCircle.Decimal.Reading

namespace GreatCircle.Decimal

open Float.Model
open Float.Model.UnpackedFloat hiding unpack pack isInf normalize

/-! ### Packing and rounding -/

lemma isInf_packedInfinity (s : Sign) :
    (UnpackedFloat.unpack .binary64 (packedInfinity .binary64 s)).isInf = true := by
  simp [UnpackedFloat.unpack, packedInfinity, UnpackedFloat.isInf]

lemma isInf_packComponents {s : Sign} {e : BitVec 11} (m : BitVec 52) (he : e.toNat ≠ 2047) :
    (UnpackedFloat.unpack .binary64 (packComponents .binary64 s e m)).isInf = false := by
  have hne : e ≠ -1#11 := by
    rintro rfl
    exact he (by decide)
  simp only [UnpackedFloat.unpack, unpackExponent_packComponents, unpackMantissa_packComponents]
  rw [if_neg hne]
  split
  · split <;> rfl
  · rfl

/-- A finite number is packed as infinity if there is no room for its exponent. -/
lemma isInf_pack_finite {s : Sign} {m : ℕ} {e : ℤ} (hm : 0 < m) :
    (Float.Model.pack (.finite s m e hm)).isInf = true ↔ 972 ≤ e := by
  change (UnpackedFloat.unpack .binary64 (UnpackedFloat.pack .binary64 (.finite s m e hm))).isInf =
    true ↔ 972 ≤ e
  have hroom : 2 ^ 11 ≤ (e + (1023 : ℕ) + (52 : ℕ)).toNat + 1 ↔ 972 ≤ e := by omega
  have hbias : Format.binary64.exponentBias = 1023 := rfl
  rw [UnpackedFloat.pack, hbias]
  by_cases he : 972 ≤ e
  · simp only [if_pos (hroom.2 he), isInf_packedInfinity, he]
  · simp only [if_neg (mt hroom.1 he), he, iff_false, Bool.not_eq_true]
    split
    · refine isInf_packComponents _ ?_
      rw [BitVec.toNat_ofNat]
      omega
    · exact isInf_packComponents _ (by decide)

lemma shiftRight_succ (em : ExtendedMantissa) (k : ℕ) :
    em >>> (k + 1) = (em >>> k).shiftRightOne := rfl

lemma mantissa_shiftRight (em : ExtendedMantissa) (k : ℕ) :
    (em >>> k).mantissa = em.mantissa / 2 ^ k := by
  induction k with
  | zero =>
    rw [Nat.pow_zero, Nat.div_one]
    rfl
  | succ k ih =>
    rw [shiftRight_succ, Nat.pow_succ, ← Nat.div_div_eq_div_mul, ← ih]
    rfl

lemma roundBit_shiftRight_succ (em : ExtendedMantissa) (k : ℕ) :
    (em >>> (k + 1)).roundBit = (em.mantissa / 2 ^ k % 2 != 0) := by
  rw [shiftRight_succ, ← mantissa_shiftRight]
  rfl

lemma roundedMantissa_mem (em : ExtendedMantissa) :
    em.mantissa ≤ em.roundedMantissa ∧ em.roundedMantissa ≤ em.mantissa + 1 := by
  obtain ⟨m, round, sticky⟩ := em
  cases round <;> cases sticky <;>
    simp only [ExtendedMantissa.roundedMantissa, ExtendedMantissa.accuracy,
      Accuracy.roundToNearestEven] <;> omega

/-- Rounding carries over into one more bit only from a mantissa of ones, and then whenever the next
bit is one too. -/
lemma roundedMantissa_eq_two_pow_iff {em : ExtendedMantissa} (h : em.mantissa < 2 ^ 53) :
    em.roundedMantissa = 2 ^ 53 ↔ em.mantissa = 2 ^ 53 - 1 ∧ em.roundBit = true := by
  obtain ⟨m, round, sticky⟩ := em
  have hm : m < 2 ^ 53 := h
  cases round <;> cases sticky <;>
    simp only [ExtendedMantissa.roundedMantissa, ExtendedMantissa.accuracy,
      Accuracy.roundToNearestEven] <;> grind

/-- A mantissa of 53 bits or more is cut to 53 bits, where these are not below the least ones. -/
lemma shiftToTargetExponent_eq {m : ℕ} {e : ℤ} (hm : 52 ≤ m.log2) (he : -1022 ≤ m.log2 + e) :
    shiftToTargetExponent .binary64 m e .exact =
      (ExtendedMantissa.ofMantissaAndAccuracy m .exact >>> (m.log2 - 52), m.log2 + e - 52) := by
  have htarget : Format.binary64.targetExponent (totalExponent m e) = m.log2 + e - 52 := by
    have hbits : Format.binary64.mantissaBits = 53 := rfl
    have hmin : Format.binary64.minExponent = -1074 := rfl
    rw [Format.targetExponent, totalExponent, hbits, hmin]
    omega
  have hshift : ((m.log2 : ℤ) + e - 52 - e).toNat = m.log2 - 52 := by omega
  have hexponent : e + (m.log2 - 52 : ℕ) = m.log2 + e - 52 := by omega
  simp only [shiftToTargetExponent, htarget, shiftToExponent, hshift, hexponent]

lemma log2_eq_of_mem {m k : ℕ} (hlow : 2 ^ k ≤ m) (hhigh : m < 2 ^ (k + 1)) : m.log2 = k :=
  (Nat.log2_eq_iff (by have := Nat.two_pow_pos k; omega)).2 ⟨hlow, hhigh⟩

section Round

variable {m : ℕ} (hm : 52 ≤ m.log2)
include hm

/-- The first 53 bits. -/
lemma div_two_pow_mem : 2 ^ 52 ≤ m / 2 ^ (m.log2 - 52) ∧ m / 2 ^ (m.log2 - 52) < 2 ^ 53 := by
  have hpos : m ≠ 0 := by
    rintro rfl
    simp at hm
  constructor
  · rw [Nat.le_div_iff_mul_le (Nat.two_pow_pos _), ← Nat.pow_add]
    have hlog : 52 + (m.log2 - 52) = m.log2 := by omega
    rw [hlog]
    exact Nat.log2_self_le hpos
  · rw [Nat.div_lt_iff_lt_mul (Nat.two_pow_pos _), ← Nat.pow_add]
    have hlog : 53 + (m.log2 - 52) = m.log2 + 1 := by omega
    rw [hlog]
    exact Nat.lt_log2_self

/-- The mantissa that is rounded to. -/
lemma roundedMantissa_mem_two_pow :
    let em := ExtendedMantissa.ofMantissaAndAccuracy m .exact >>> (m.log2 - 52)
    2 ^ 52 ≤ em.roundedMantissa ∧ em.roundedMantissa ≤ 2 ^ 53 ∧
      (em.roundedMantissa = 2 ^ 53 ↔ 53 ≤ m.log2 ∧ m / 2 ^ (m.log2 - 53) = 2 ^ 54 - 1) := by
  intro em
  obtain ⟨hlow, hhigh⟩ := div_two_pow_mem hm
  have hmantissa : em.mantissa = m / 2 ^ (m.log2 - 52) := mantissa_shiftRight _ _
  obtain ⟨hle, hle'⟩ := roundedMantissa_mem em
  refine ⟨by omega, by omega, ?_⟩
  rw [roundedMantissa_eq_two_pow_iff (by omega), hmantissa]
  rcases Nat.lt_or_ge m.log2 53 with hexact | hlong
  · -- nothing is cut off, and there is no further bit
    have hzero : m.log2 - 52 = 0 := by omega
    have hbit : em.roundBit = false := by
      simp only [em, hzero]
      rfl
    simp [hbit]
    omega
  · obtain ⟨k, hk⟩ : ∃ k, m.log2 = k + 53 := ⟨m.log2 - 53, by omega⟩
    have hcut : m.log2 - 52 = k + 1 := by omega
    have hcut' : m.log2 - 53 = k := by omega
    have hbit : em.roundBit = (m / 2 ^ k % 2 != 0) := by
      simp only [em, hcut]
      exact roundBit_shiftRight_succ _ _
    rw [hbit, hcut, hcut', Nat.pow_succ, ← Nat.div_div_eq_div_mul]
    simp only [bne_iff_ne]
    omega

/-- A number of at least 53 bits that needs no rounding any more is packed as infinity if there is
no room for its exponent. -/
lemma isInf_pack_shifted {s : Sign} {e : ℤ} (he : -1022 ≤ m.log2 + e) :
    (Float.Model.pack
      (if h : (shiftToTargetExponent .binary64 m e .exact).1.mantissa = 0 then .zero s
      else .finite s _ (shiftToTargetExponent .binary64 m e .exact).2
        (Nat.pos_of_ne_zero h))).isInf = true ↔ 1024 ≤ m.log2 + e := by
  have hne : (shiftToTargetExponent .binary64 m e .exact).1.mantissa ≠ 0 := by
    rw [shiftToTargetExponent_eq hm he, mantissa_shiftRight]
    have := (div_two_pow_mem hm).1
    change m / _ ≠ 0
    omega
  rw [dif_neg hne, isInf_pack_finite, shiftToTargetExponent_eq hm he]
  omega

/-- A number is rounded to infinity if its exponent has no room, or has none after rounding has
carried over into one more bit: then the first 54 bits are ones. -/
lemma isInf_roundWithAccuracy {s : Sign} {e : ℤ} (he : -1022 ≤ m.log2 + e) :
    (Float.Model.pack (roundWithAccuracy .binary64 s m e .exact)).isInf = true ↔
      1024 ≤ m.log2 + e ∨
        m.log2 + e = 1023 ∧ 53 ≤ m.log2 ∧ m / 2 ^ (m.log2 - 53) = 2 ^ 54 - 1 := by
  obtain ⟨hlow, hhigh, hcarry⟩ := roundedMantissa_mem_two_pow hm
  simp only [roundWithAccuracy, shiftToTargetExponent_eq hm he]
  by_cases hcarried : (ExtendedMantissa.ofMantissaAndAccuracy m .exact >>>
      (m.log2 - 52)).roundedMantissa = 2 ^ 53
  · have hlog := congrArg Nat.log2 hcarried
    rw [Nat.log2_two_pow] at hlog
    rw [isInf_pack_shifted (by omega) (by omega), hlog]
    have := hcarry.1 hcarried
    omega
  · have hlog := log2_eq_of_mem hlow (by omega)
    rw [isInf_pack_shifted (by omega) (by omega), hlog]
    have := mt hcarry.2 hcarried
    omega

end Round

/-! ### Whole numbers -/

lemma log2_mul_two_pow {n k : ℕ} (h : n ≠ 0) : (n * 2 ^ k).log2 = n.log2 + k := by
  refine log2_eq_of_mem ?_ ?_
  · rw [Nat.pow_add]
    exact Nat.mul_le_mul_right _ (Nat.log2_self_le h)
  · rw [Nat.add_right_comm, Nat.pow_add]
    exact Nat.mul_lt_mul_of_pos_right Nat.lt_log2_self (Nat.two_pow_pos k)

/-- What is unpacked from an exponent of its own has 53 bits. -/
lemma exists_unpack_packComponents {s : Sign} {e : BitVec 11} (m : BitVec 52) (hnone : e ≠ 0#11)
    (hall : e ≠ -1#11) :
    ∃ (s' : Sign) (n : ℕ) (hn : 0 < n), n.log2 = 52 ∧
      UnpackedFloat.unpack .binary64 (packComponents .binary64 s e m) =
        .finite s' n (e.toNat - 1075) hn := by
  have hlow : 2 ^ 52 ≤ (1#1 ++ m).toNat := by
    rw [BitVec.toNat_append]
    exact Nat.left_le_or
  have hpos : 0 < (1#1 ++ m).toNat := by omega
  refine ⟨Sign.ofBitVec (unpackSign (packComponents .binary64 s e m)), _, hpos,
    log2_eq_of_mem hlow (1#1 ++ m).isLt, ?_⟩
  simp only [UnpackedFloat.unpack, unpackExponent_packComponents, unpackMantissa_packComponents]
  rw [if_neg hall, if_neg hnone]
  rfl

/-- A number of 53 bits keeps its exponent when it is packed. -/
lemma exists_unpack_pack {s : Sign} {m : ℕ} {e : ℤ} (hm : 0 < m) (hlog : m.log2 = 52)
    (he : -1074 ≤ e) (he' : e < 972) :
    ∃ (s' : Sign) (n : ℕ) (hn : 0 < n), n.log2 = 52 ∧
      (Float.Model.pack (.finite s m e hm)).unpack = .finite s' n e hn := by
  have hbias : Format.binary64.exponentBias = 1023 := rfl
  have hroom : ¬ 2 ^ 11 ≤ (e + (1023 : ℕ) + (52 : ℕ)).toNat + 1 := by omega
  have hbits : m.log2 + 1 = Format.binary64.mantissaBits := by
    rw [hlog]
    rfl
  have hexponent : (BitVec.ofNat 11 (e + (1023 : ℕ) + (52 : ℕ)).toNat).toNat = e + 1075 := by
    rw [BitVec.toNat_ofNat]
    omega
  have hpack : UnpackedFloat.pack .binary64 (.finite s m e hm) = packComponents .binary64 s
      (BitVec.ofNat 11 (e + (1023 : ℕ) + (52 : ℕ)).toNat) (BitVec.ofNat 52 m) := by
    rw [UnpackedFloat.pack, hbias]
    simp only [if_neg hroom, if_pos hbits]
  obtain ⟨s', n, hn, hn', hunpack⟩ := exists_unpack_packComponents (s := s)
    (e := BitVec.ofNat 11 (e + (1023 : ℕ) + (52 : ℕ)).toNat) (BitVec.ofNat 52 m)
    (fun heq => by rw [heq] at hexponent; simp at hexponent; omega)
    (fun heq => by rw [heq] at hexponent; simp at hexponent; omega)
  refine ⟨s', n, hn, hn', ?_⟩
  change UnpackedFloat.unpack .binary64 (UnpackedFloat.pack .binary64 (.finite s m e hm)) = _
  rw [hpack, hunpack]
  congr 1
  omega

/-- A number of 53 bits needs no rounding. -/
lemma roundWithAccuracy_of_log2 {s : Sign} {m : ℕ} {e : ℤ} (hm : 0 < m) (hlog : m.log2 = 52)
    (he : -1074 ≤ e) : roundWithAccuracy .binary64 s m e .exact = .finite s m e hm := by
  have hshift : shiftToTargetExponent .binary64 m e .exact =
      (ExtendedMantissa.ofMantissaAndAccuracy m .exact, e) := by
    rw [shiftToTargetExponent_eq (by omega) (by omega), hlog]
    congr 1
    omega
  have hrounded : (ExtendedMantissa.ofMantissaAndAccuracy m .exact).roundedMantissa = m := rfl
  have hmantissa : (ExtendedMantissa.ofMantissaAndAccuracy m .exact).mantissa = m := rfl
  simp only [roundWithAccuracy, hshift, hrounded, hmantissa]
  rw [dif_neg (by omega)]

/-- A whole number of at most 53 bits is a double. -/
lemma round_of_lt {n : ℕ} (hn : 0 < n) (h : n < 2 ^ 53) :
    UnpackedFloat.round .binary64 .positive n 0 =
      .finite .positive (n * 2 ^ (52 - n.log2)) (n.log2 - 52)
        (Nat.mul_pos hn (Nat.two_pow_pos _)) := by
  have hlog : n.log2 < 53 := (Nat.log2_lt (by omega)).2 h
  have htarget : Format.binary64.targetExponent (totalExponent n 0) = n.log2 - 52 := by
    have hbits : Format.binary64.mantissaBits = 53 := rfl
    have hmin : Format.binary64.minExponent = -1074 := rfl
    rw [Format.targetExponent, totalExponent, hbits, hmin]
    omega
  have hshift : (0 - ((n.log2 : ℤ) - 52)).toNat = 52 - n.log2 := by omega
  have hexponent : (0 : ℤ) - (52 - n.log2 : ℕ) = n.log2 - 52 := by omega
  simp only [UnpackedFloat.round, htarget, decreaseExponent, hshift, hexponent, Nat.shiftLeft_eq]
  refine roundWithAccuracy_of_log2 _ ?_ (by omega)
  rw [log2_mul_two_pow (by omega)]
  omega

lemma toModel_toFloat_toUInt64 {n : ℕ} (hn : 0 < n) (h : n < 2 ^ 53) :
    n.toUInt64.toFloat.toModel =
      Float.Model.pack (UnpackedFloat.round .binary64 .positive n 0) := by
  have hword : n.toUInt64.toNat = n := UInt64.toNat_ofNat_of_lt' (by
    rw [UInt64.size]
    omega)
  have hpositive : compare (n : ℤ) 0 = .gt := compare_gt_iff_gt.2 (by omega)
  change Float.Model.pack (UnpackedFloat.normalize .binary64 n.toUInt64.toNat 0 .positive) = _
  rw [hword]
  simp only [UnpackedFloat.normalize, hpositive, Int.toNat_natCast]

/-- A whole number of at most 53 bits is not rounded to infinity. -/
lemma isInf_ofScientific_of_lt {n : ℕ} (h : n < 2 ^ 53) :
    (Float.ofScientific n false 0).isInf = false := by
  rcases Nat.eq_zero_or_pos n with rfl | hn
  · decide +kernel
  · have hlog : n.log2 < 53 := (Nat.log2_lt (by omega)).2 h
    have hone : (Float.ofBits 0x3FF0000000000000).toModel.unpack =
        .finite .positive (2 ^ 52) (-52) (by decide) := rfl
    -- it is multiplied by the power `10 ^ 0`, which is exact
    obtain ⟨s, m, hm, hbits, hunpack⟩ := exists_unpack_pack (s := .positive) (e := n.log2 - 52)
      (Nat.mul_pos hn (Nat.two_pow_pos (52 - n.log2)))
      (by rw [log2_mul_two_pow (by omega)]; omega) (by omega) (by omega)
    have hproduct : (m * 2 ^ 52).log2 = 104 := by rw [log2_mul_two_pow (by omega), hbits]
    rw [Float.ofScientific, dif_pos ⟨h, by decide⟩]
    change (Float.Model.pack (UnpackedFloat.mul .binary64 n.toUInt64.toFloat.toModel.unpack
      (Float.ofBits 0x3FF0000000000000).toModel.unpack)).isInf = false
    rw [hone, toModel_toFloat_toUInt64 hn h, round_of_lt hn h, hunpack, UnpackedFloat.mul,
      Bool.eq_false_iff, Ne, isInf_roundWithAccuracy (by omega) (by omega)]
    omega

/-- A longer whole number is rounded after 53 zeros have been put behind it. -/
lemma isInf_ofScientific_eq {n : ℕ} (h : 2 ^ 53 ≤ n) :
    (Float.ofScientific n false 0).isInf =
      (Float.Model.pack
        (roundWithAccuracy .binary64 .positive (n * 2 ^ 53) (-53) .exact)).isInf := by
  have hexponents : (2 ^ Format.binary64.exponentBits : ℤ) = 2048 := rfl
  have hproduct : (n <<< Format.binary64.mantissaBits) * 10 ^ (0 : ℤ).toNat = n * 2 ^ 53 := by
    rw [Nat.shiftLeft_eq]
    exact Nat.mul_one _
  rw [Float.ofScientific, dif_neg (by omega)]
  change (Float.Model.ofScientific n 0).isInf = _
  rw [Float.Model.ofScientific, UnpackedFloat.ofScientific, dif_neg (by omega),
    if_neg (by decide), if_neg (by omega), if_pos (by decide), UnpackedFloat.mul, hproduct]
  rfl

lemma isInf_ofScientific_of_le {n : ℕ} (h : 2 ^ 53 ≤ n) :
    (Float.ofScientific n false 0).isInf = true ↔ 2 ^ 1024 - 2 ^ 970 ≤ n := by
  have hne : n ≠ 0 := by omega
  have hlog : 53 ≤ n.log2 := (Nat.le_log2 hne).2 h
  have hbits : (n * 2 ^ 53).log2 = n.log2 + 53 := log2_mul_two_pow hne
  have hsum : ((n.log2 + 53 : ℕ) : ℤ) + -53 = n.log2 := by omega
  have hlow : 2 ^ n.log2 ≤ n := Nat.log2_self_le hne
  rw [isInf_ofScientific_eq h, isInf_roundWithAccuracy (by omega) (by omega), hbits, hsum,
    Nat.add_sub_cancel]
  constructor
  · rintro (hlarge | ⟨hlast, -, hones⟩)
    · have hpow := (Nat.le_log2 hne).1 (show 1024 ≤ n.log2 by omega)
      omega
    · have hlast' : n.log2 = 1023 := by omega
      rw [hlast'] at hones
      omega
  · intro hlarge
    by_cases hlast : n.log2 = 1023
    · refine Or.inr ⟨by omega, by omega, ?_⟩
      have hhigh := Nat.lt_log2_self (n := n)
      rw [hlast] at hhigh ⊢
      omega
    · have : 1023 ≤ n.log2 := (Nat.le_log2 hne).2 (by omega)
      omega

/-- The whole numbers that are rounded to infinity. -/
lemma isInf_magnitudeToFloat {n : ℕ} :
    (magnitudeToFloat n 0).isInf = true ↔ 2 ^ 1024 - 2 ^ 970 ≤ n := by
  unfold magnitudeToFloat
  rcases Nat.eq_zero_or_pos n with rfl | hn
  · refine iff_of_false (by decide +kernel) (by decide +kernel)
  · have hsmall : ¬ (n = 0 ∨ (0 : ℤ) + Ratio.digitCount n < -400) := by omega
    simp only [if_neg hsmall]
    split
    · rename_i hlong
      have hlarge : ¬ n < 10 ^ 400 := by
        rw [← Nat.length_toDigits_le_iff (by decide) (by decide)]
        rw [Ratio.digitCount] at hlong
        omega
      have hbeyond : 2 ^ 1024 - 2 ^ 970 ≤ 10 ^ 400 := by decide +kernel
      refine iff_of_true (by decide +kernel) (by omega)
    · change (Float.ofScientific n false 0).isInf = true ↔ _
      rcases Nat.lt_or_ge n (2 ^ 53) with hshort | hlong
      · rw [isInf_ofScientific_of_lt hshort]
        refine iff_of_false Bool.false_ne_true (by omega)
      · exact isInf_ofScientific_of_le hlong

theorem ofInt?_eq_none_iff {n : ℤ} : ofInt? n = none ↔ 2 ^ 1024 - 2 ^ 970 ≤ n.natAbs := by
  rw [← isInf_magnitudeToFloat, ofInt?]
  split
  · rename_i hinf
    simp [hinf]
  · rename_i hfinite
    simp [hfinite]

end GreatCircle.Decimal
