import Mathlib
import Fiducial.Decimal.Basic
import Fiducial.Proofs.DoubleRounding

/-!
# The nearest double

A finite double is told by its sign, its mantissa and its exponent, and every number in the interval
of those that round to it is read as that double.  The interval reaches half a step of the last
place to either side; below a power of two, where the steps become half as large, it reaches a
quarter of a step down.
-/

namespace Fiducial

/-! ## Patterns of bits -/

namespace Double

open Float.Model (Format UnpackedFloat)
open Float.Model.UnpackedFloat

theorem toBitVec_ofBitVec (b : BitVec 1) : (Sign.ofBitVec b).toBitVec = b := by
  revert b
  decide

theorem components_eq (b : BitVec Format.binary64.numBits) :
    packComponents Format.binary64 (Sign.ofBitVec (unpackSign b)) (unpackExponent b)
      (unpackMantissa b) = b := by
  unfold packComponents
  rw [toBitVec_ofBitVec]
  apply BitVec.eq_of_getLsbD_eq
  intro i hi
  change i < 64 at hi
  simp only [BitVec.getLsbD_append]
  change (if i < 52 then (unpackMantissa b).getLsbD i else
    if i - 52 < 11 then (unpackExponent b).getLsbD (i - 52) else
      (unpackSign b).getLsbD (i - 52 - 11)) = b.getLsbD i
  have hget : ∀ {lo n : ℕ} (j : ℕ),
      (b.extractLsb' lo n).getLsbD j = (decide (j < n) && b.getLsbD (lo + j)) :=
    fun j => BitVec.getLsbD_extractLsb' ..
  split
  next hmantissa =>
    change (b.extractLsb' 0 52).getLsbD i = _
    rw [hget]
    simp [hmantissa]
  next hrest =>
    split
    next hexponent =>
      change (b.extractLsb' 52 11).getLsbD (i - 52) = _
      rw [hget, Nat.add_sub_cancel' (by omega)]
      simp [hexponent]
    next hsign =>
      change (b.extractLsb' 63 1).getLsbD (i - 52 - 11) = _
      obtain rfl : i = 63 := by omega
      rw [hget]
      simp

/-- A mantissa without its implicit digit is shorter than one that has it. -/
theorem log2_mantissa_ne {b : BitVec Format.binary64.numBits} (hne : unpackMantissa b ≠ 0) :
    (unpackMantissa b).toNat.log2 + 1 ≠ 53 := by
  have hmantissa : (unpackMantissa b).toNat < 2 ^ 52 := (unpackMantissa b).isLt
  have hpos : (unpackMantissa b).toNat ≠ 0 := fun hzero => hne (BitVec.eq_of_toNat_eq hzero)
  have hlog := (Nat.log2_lt hpos).mpr hmantissa
  omega

theorem log2_implicit_mantissa (b : BitVec Format.binary64.numBits) :
    (1#1 ++ unpackMantissa b).toNat.log2 + 1 = 53 := by
  have hmantissa : (unpackMantissa b).toNat < 2 ^ 52 := (unpackMantissa b).isLt
  have hhigh : (2 ^ 52 + (unpackMantissa b).toNat).log2 = 52 :=
    (Nat.log2_eq_iff (by omega)).mpr ⟨by omega, by omega⟩
  rw [implicit_mantissa_toNat, hhigh]

/-- A valid pattern of bits is unpacked and packed again without a change. -/
theorem pack_unpack {b : BitVec Format.binary64.numBits} (hb : Format.binary64.Valid b) :
    UnpackedFloat.pack Format.binary64 (UnpackedFloat.unpack Format.binary64 b) = b := by
  have hmantissa : (unpackMantissa b).toNat < 2 ^ 52 := (unpackMantissa b).isLt
  have hexponent : (unpackExponent b).toNat < 2 ^ 11 := (unpackExponent b).isLt
  conv_rhs => rw [← components_eq b]
  -- infinities and what is no number, then zeros, subnormal and normal numbers
  unfold UnpackedFloat.unpack
  dsimp only
  split
  next htop =>
    split
    next hzero =>
      rw [htop, hzero]
      rfl
    next hne =>
      rw [components_eq]
      exact (hb.eq_packedNaN htop hne).symm
  next hfinite =>
    split
    next hleast =>
      split
      next hzero =>
        rw [hleast, hzero]
        rfl
      next hne =>
        have hsmall : ¬ 2 ^ 11 ≤
            (((0 : ℕ) : ℤ) - (1023 + 52) + 1 + 1023 + 52 : ℤ).toNat + 1 := by decide
        rw [hleast]
        unfold UnpackedFloat.pack
        refine (if_neg hsmall).trans ((if_neg (log2_mantissa_ne hne)).trans ?_)
        rw [BitVec.ofNat_toNat, BitVec.setWidth_eq]
    next hnormal =>
      have hbiased : (((unpackExponent b).toNat : ℤ) - (1023 + 52) + 1023 + 52).toNat =
          (unpackExponent b).toNat := by omega
      have hsmall : ¬ 2 ^ 11 ≤
          (((unpackExponent b).toNat : ℤ) - (1023 + 52) + 1023 + 52).toNat + 1 := by
        have hne : (unpackExponent b).toNat ≠ 2047 := fun htop =>
          hfinite (BitVec.eq_of_toNat_eq htop)
        omega
      unfold UnpackedFloat.pack
      refine (if_neg hsmall).trans ((if_pos (log2_implicit_mantissa b)).trans ?_)
      congr 1
      · change BitVec.ofNat 11 (((unpackExponent b).toNat : ℤ) - (1023 + 52) + 1023 + 52).toNat = _
        rw [hbiased, BitVec.ofNat_toNat, BitVec.setWidth_eq]
      · apply BitVec.eq_of_toNat_eq
        change (BitVec.ofNat 52 (1#1 ++ unpackMantissa b).toNat).toNat = _
        rw [implicit_mantissa_toNat, BitVec.toNat_ofNat]
        omega

theorem toNat_unpackExponent (b : BitVec Format.binary64.numBits) :
    (unpackExponent b).toNat = b.toNat / 2 ^ 52 % 2048 := by
  change (b.extractLsb' 52 11).toNat = _
  rw [BitVec.extractLsb'_toNat, Nat.shiftRight_eq_div_pow]

theorem toNat_unpackMantissa (b : BitVec Format.binary64.numBits) :
    (unpackMantissa b).toNat = b.toNat % 2 ^ 52 := by
  change (b.extractLsb' 0 52).toNat = _
  rw [BitVec.extractLsb'_toNat, Nat.shiftRight_zero]

theorem ofBits_toBits (x : Float) : Float.ofBits x.toBits = x := by
  obtain ⟨⟨bits, hvalid⟩⟩ := x
  have hpacked := pack_unpack hvalid
  have hmodel : Float.Model.ofBits bits = ⟨bits, hvalid⟩ := by
    unfold Float.Model.ofBits Float.Model.pack
    congr 1
    exact congrArg UInt64.ofBitVec hpacked
  exact congrArg Float.ofModel hmodel

end Double

open Double (IsCanonical)

/-- The pattern of bits, without the sign, of a mantissa and an exponent. -/
def Binary.pattern (m : ℕ) (q : ℤ) : ℕ :=
  if m < 2 ^ 52 then m else (q + 1075).toNat * 2 ^ 52 + (m - 2 ^ 52)

/-- A finite double is given by its sign, its mantissa and its exponent. -/
structure Binary.Decoded (x : Float) (negative : Bool) (m : ℕ) (q : ℤ) : Prop where
  canonical : IsCanonical m q
  most : q ≤ 971
  bits : x.toBits.toNat = (if negative then 2 ^ 63 else 0) + Binary.pattern m q

theorem Binary.decoded_of_decode {x : Float} {negative : Bool} {m : ℕ} {q : ℤ}
    (hdecode : Binary.decode x = .finite negative m q) : Binary.Decoded x negative m q := by
  have hsize : x.toBits.toNat < 2 ^ 64 := x.toBits.toNat_lt
  unfold Binary.decode at hdecode
  dsimp only at hdecode
  generalize hbits : x.toBits.toNat = bits at hsize hdecode
  change (if bits / 2 ^ 52 % 2048 = 2047 then _ else if bits / 2 ^ 52 % 2048 = 0 then
    Reading.finite (decide (2 ^ 63 ≤ bits)) (bits % 2 ^ 52) (-1074) else
      Reading.finite (decide (2 ^ 63 ≤ bits)) (2 ^ 52 + bits % 2 ^ 52)
        ((bits / 2 ^ 52 % 2048 : ℕ) - 1075)) = _ at hdecode
  split at hdecode
  next => split at hdecode <;> cases hdecode
  next htop =>
    split at hdecode
    next hleast =>
      injection hdecode with hsign hm hq
      subst hsign hm hq
      refine ⟨⟨by omega, by omega, .inr rfl⟩, by omega, ?_⟩
      have hpattern : pattern (bits % 2 ^ 52) (-1074) = bits % 2 ^ 52 := if_pos (by omega)
      rw [hbits, hpattern]
      simp only [decide_eq_true_eq]
      split <;> omega
    next hnormal =>
      injection hdecode with hsign hm hq
      subst hsign hm hq
      refine ⟨⟨by omega, by omega, .inl (by omega)⟩, by omega, ?_⟩
      have hpattern : pattern (2 ^ 52 + bits % 2 ^ 52) ((bits / 2 ^ 52 % 2048 : ℕ) - 1075) =
          (((bits / 2 ^ 52 % 2048 : ℕ) : ℤ) - 1075 + 1075).toNat * 2 ^ 52 +
            (2 ^ 52 + bits % 2 ^ 52 - 2 ^ 52) := if_neg (by omega)
      rw [hbits, hpattern]
      simp only [decide_eq_true_eq]
      split <;> omega

theorem Binary.eq_of_bits {x : Float} {bits : ℕ} (hbits : x.toBits.toNat = bits) :
    Binary.ofBits bits = x := by
  rw [← Double.ofBits_toBits x, Binary.ofBits, ← hbits, UInt64.ofNat_toNat]

/-- There is one double that is not a number. -/
theorem Binary.eq_nan_of_decode {x : Float} (hdecode : Binary.decode x = .nan) :
    Binary.nan = x := by
  obtain ⟨⟨bits, hvalid⟩⟩ := x
  have hexponent := Double.toNat_unpackExponent bits.toBitVec
  have hmantissa := Double.toNat_unpackMantissa bits.toBitVec
  unfold decode at hdecode
  dsimp only at hdecode
  split at hdecode
  next htop =>
    split at hdecode
    next => cases hdecode
    next hfraction =>
      have hpacked := hvalid.eq_packedNaN
        (BitVec.eq_of_toNat_eq (hexponent.trans htop))
        (fun hzero => hfraction (hmantissa.symm.trans (congrArg BitVec.toNat hzero)))
      have hbits : bits.toNat = 2047 * Nat.pow 2 52 + Nat.pow 2 51 := congrArg BitVec.toNat hpacked
      exact eq_of_bits (x := ⟨⟨bits, hvalid⟩⟩) hbits
  next => split at hdecode <;> cases hdecode

theorem Binary.eq_infinity_of_decode {x : Float} {negative : Bool}
    (hdecode : Binary.decode x = .infinite negative) :
    (if negative then -Binary.infinity else Binary.infinity) = x := by
  have hsize : x.toBits.toNat < 2 ^ 64 := x.toBits.toNat_lt
  have hminus : -Binary.infinity = Binary.ofBits (2 ^ 63 + 2047 * 2 ^ 52) := by decide +kernel
  unfold decode at hdecode
  dsimp only at hdecode
  split at hdecode
  next htop =>
    split at hdecode
    next hfraction =>
      injection hdecode with hsign
      change decide (2 ^ 63 ≤ x.toBits.toNat) = negative at hsign
      change x.toBits.toNat / 2 ^ 52 % 2048 = 2047 at htop
      change x.toBits.toNat % 2 ^ 52 = 0 at hfraction
      subst hsign
      simp only [decide_eq_true_eq, hminus]
      split
      · exact eq_of_bits (by omega)
      · exact eq_of_bits (by change x.toBits.toNat = 2047 * 2 ^ 52; omega)
    next => cases hdecode
  next => split at hdecode <;> cases hdecode

/-! ## Fractions and powers -/

open Decimal (Interval)

theorem roundDiv_eq {num den m : ℕ} (hden : 0 < den) (hlow : 2 * m * den ≤ 2 * num + den)
    (hhigh : 2 * num ≤ 2 * m * den + den)
    (htie : m % 2 = 0 ∨ (2 * m * den < 2 * num + den ∧ 2 * num < 2 * m * den + den)) :
    roundDiv num den = m := by
  have hdivision : den * (num / den) + num % den = num := Nat.div_add_mod num den
  have hrest : num % den < den := Nat.mod_lt _ hden
  generalize hquotient : num / den = a at hdivision
  generalize hremainder : num % den = r at hdivision hrest
  subst hdivision
  have hnear : m = a ∨ m = a + 1 := by
    have hbelow : 2 * a < 2 * m + 1 + 1 := by nlinarith
    have habove : 2 * m < 2 * a + 2 + 1 := by nlinarith
    omega
  simp only [roundDiv, hquotient, hremainder]
  rcases hnear with rfl | rfl
  · have hle : 2 * r ≤ den := by nlinarith
    rw [if_neg (by omega)]
    split
    next htied =>
      have heven : m % 2 = 0 := by
        rcases htie with heven | ⟨-, hstrict⟩
        · exact heven
        · exfalso
          nlinarith
      omega
    next => rfl
  · have hge : den ≤ 2 * r := by nlinarith
    split
    next => rfl
    next hnot =>
      have htied : 2 * r = den := by omega
      have heven : (a + 1) % 2 = 0 := by
        rcases htie with heven | ⟨hstrict, -⟩
        · exact heven
        · exfalso
          nlinarith
      rw [if_pos htied]
      omega

theorem Binary.ratio_pos (m : ℕ) (q : ℤ) : 0 < (Binary.ratio m q).2 := by
  unfold Binary.ratio
  split
  · exact Nat.one_pos
  · exact Nat.pow_pos (by decide)

theorem Binary.ratio_value (m : ℕ) (q : ℤ) :
    ((Binary.ratio m q).1 : ℚ) / (Binary.ratio m q).2 = m * 2 ^ q := by
  unfold Binary.ratio
  split
  next hq =>
    lift q to ℕ using hq
    simp
  next hq =>
    obtain ⟨k, rfl⟩ : ∃ k : ℕ, q = -(k : ℤ) := ⟨(-q).toNat, by omega⟩
    simp [div_eq_mul_inv]

theorem Decimal.ratio_value (n : ℕ) (k : ℤ) :
    ((Decimal.ratio n k).1 : ℚ) / (Decimal.ratio n k).2 = n * 10 ^ k := by
  unfold Decimal.ratio
  split
  next hk =>
    lift k to ℕ using hk
    simp
  next hk =>
    obtain ⟨k, rfl⟩ : ∃ j : ℕ, k = -(j : ℤ) := ⟨(-k).toNat, by omega⟩
    simp [div_eq_mul_inv]

theorem log_eq_iff {b : ℕ} (hb : 1 < b) {r : ℚ} (hr : 0 < r) {k : ℤ} :
    Int.log b r = k ↔ (b : ℚ) ^ k ≤ r ∧ r < (b : ℚ) ^ (k + 1) := by
  rw [Int.zpow_le_iff_le_log hb hr, Int.lt_zpow_iff_log_lt hb hr]
  omega

/-- A fraction is compared with a number through products of naturals. -/
theorem mul_lt_iff_div_lt (num : ℕ) {den a b : ℕ} (hden : 0 < den) (hb : 0 < b) {x : ℚ}
    (hx : (a : ℚ) / b = den * x) : num * b < a ↔ (num : ℚ) / den < x := by
  have hden' : (0 : ℚ) < den := by exact_mod_cast hden
  have hb' : (0 : ℚ) < b := by exact_mod_cast hb
  rw [div_lt_iff₀' hden', ← hx, lt_div_iff₀ hb']
  exact_mod_cast Iff.rfl

/-- The logarithm of a fraction is told from those of its parts up to one, and a comparison decides.
-/
theorem log_div {b : ℕ} (hb : 1 < b) {num den i j : ℕ} (hnum : b ^ i ≤ num)
    (hnum' : num < b ^ (i + 1)) (hden : b ^ j ≤ den) (hden' : den < b ^ (j + 1)) :
    Int.log b ((num : ℚ) / den) =
      if (num : ℚ) / den < (b : ℚ) ^ ((i : ℤ) - j) then (i : ℤ) - j - 1 else (i : ℤ) - j := by
  have hb0 : (0 : ℚ) < b := by exact_mod_cast (by omega : 0 < b)
  have hnumPos : (0 : ℚ) < num := by exact_mod_cast (Nat.pow_pos (by omega)).trans_le hnum
  have hdenPos : (0 : ℚ) < den := by exact_mod_cast (Nat.pow_pos (by omega)).trans_le hden
  have hr : (0 : ℚ) < (num : ℚ) / den := div_pos hnumPos hdenPos
  have hlow : (b : ℚ) ^ ((i : ℤ) - j - 1) ≤ (num : ℚ) / den := by
    rw [le_div_iff₀ hdenPos]
    calc (b : ℚ) ^ ((i : ℤ) - j - 1) * den
        ≤ (b : ℚ) ^ ((i : ℤ) - j - 1) * (b : ℚ) ^ ((j : ℤ) + 1) := by
          gcongr
          exact_mod_cast hden'.le
      _ = (b : ℚ) ^ (i : ℤ) := by
          rw [← zpow_add₀ hb0.ne']
          congr 1
          omega
      _ ≤ num := by exact_mod_cast hnum
  have hhigh : (num : ℚ) / den < (b : ℚ) ^ ((i : ℤ) - j + 1) := by
    rw [div_lt_iff₀ hdenPos]
    calc (num : ℚ) < (b : ℚ) ^ ((i : ℤ) + 1) := by exact_mod_cast hnum'
      _ = (b : ℚ) ^ ((i : ℤ) - j + 1) * (b : ℚ) ^ (j : ℤ) := by
          rw [← zpow_add₀ hb0.ne']
          congr 1
          omega
      _ ≤ (b : ℚ) ^ ((i : ℤ) - j + 1) * den := by
          gcongr
          exact_mod_cast hden
  split
  next hless => exact (log_eq_iff hb hr).mpr ⟨hlow, by simpa using hless⟩
  next hnot => exact (log_eq_iff hb hr).mpr ⟨not_lt.mp hnot, hhigh⟩

theorem Binary.exponentFor_eq {num den : ℕ} (hnum : 0 < num) (hden : 0 < den) :
    Binary.exponentFor num den = max (Int.log 2 ((num : ℚ) / den) - 52) (-1074) := by
  have hlog := log_div (by decide) (Nat.log2_self_le hnum.ne') Nat.lt_log2_self
    (Nat.log2_self_le hden.ne') Nat.lt_log2_self
  let guess : ℤ := (Nat.log2 num : ℤ) - (Nat.log2 den : ℤ) - 52
  have hbound : ((Binary.ratio (Nat.pow 2 52 * den) guess).1 : ℚ) /
      (Binary.ratio (Nat.pow 2 52 * den) guess).2 =
        den * (2 : ℚ) ^ ((Nat.log2 num : ℤ) - (Nat.log2 den : ℤ)) := by
    have hpow : (2 : ℚ) ^ ((Nat.log2 num : ℤ) - (Nat.log2 den : ℤ)) = 2 ^ 52 * 2 ^ guess := by
      rw [← zpow_natCast, ← zpow_add₀ (by norm_num)]
      congr 1
      omega
    rw [Binary.ratio_value, hpow]
    push_cast
    ring
  have hdecides := mul_lt_iff_div_lt num hden (Binary.ratio_pos _ _) hbound
  change max (if num * (Binary.ratio (Nat.pow 2 52 * den) guess).2 <
    (Binary.ratio (Nat.pow 2 52 * den) guess).1 then guess - 1 else guess) (-1074) = _
  rw [hlog]
  simp only [hdecides, Nat.cast_ofNat]
  split <;> omega

/-! ## The nearest double -/

namespace Decimal

/-- A number is in the interval of those that round to a double. -/
def Interval.Holds (i : Interval) (q : ℤ) (r : ℚ) : Prop :=
  (i.low : ℚ) * 2 ^ (q - 2) ≤ r ∧ r ≤ i.high * 2 ^ (q - 2) ∧
    (i.closed = true ∨ ((i.low : ℚ) * 2 ^ (q - 2) < r ∧ r < i.high * 2 ^ (q - 2)))

end Decimal

theorem roundDiv_of_near {num den m : ℕ} (hden : 0 < den)
    (hlow : (m : ℚ) - 1 / 2 ≤ (num : ℚ) / den) (hhigh : (num : ℚ) / den ≤ m + 1 / 2)
    (htie : m % 2 = 0 ∨ ((m : ℚ) - 1 / 2 < (num : ℚ) / den ∧ (num : ℚ) / den < m + 1 / 2)) :
    roundDiv num den = m := by
  have hden' : (0 : ℚ) < den := by exact_mod_cast hden
  rw [le_div_iff₀ hden'] at hlow
  rw [div_le_iff₀ hden'] at hhigh
  rw [lt_div_iff₀ hden', div_lt_iff₀ hden'] at htie
  have hlow' : ((2 * m * den : ℕ) : ℚ) ≤ (2 * num + den : ℕ) := by
    push_cast
    linarith
  have hhigh' : ((2 * num : ℕ) : ℚ) ≤ (2 * m * den + den : ℕ) := by
    push_cast
    linarith
  refine roundDiv_eq hden (by exact_mod_cast hlow') (by exact_mod_cast hhigh') ?_
  refine htie.imp_right fun ⟨hbelow, habove⟩ => ?_
  have hbelow' : ((2 * m * den : ℕ) : ℚ) < (2 * num + den : ℕ) := by
    push_cast
    linarith
  have habove' : ((2 * num : ℕ) : ℚ) < (2 * m * den + den : ℕ) := by
    push_cast
    linarith
  exact ⟨by exact_mod_cast hbelow', by exact_mod_cast habove'⟩

/-- A fraction, in steps of a power of two. -/
theorem ratio_steps (num : ℕ) {den : ℕ} (hden : 0 < den) (q : ℤ) :
    0 < (Binary.ratio den q).1 ∧
      ((num * (Binary.ratio den q).2 : ℕ) : ℚ) / (Binary.ratio den q).1 =
        (num : ℚ) / den / 2 ^ q := by
  have hb : (0 : ℚ) < (Binary.ratio den q).2 := by exact_mod_cast Binary.ratio_pos den q
  have hden' : (0 : ℚ) < den := by exact_mod_cast hden
  have ha : ((Binary.ratio den q).1 : ℚ) = den * 2 ^ q * (Binary.ratio den q).2 := by
    rw [← Binary.ratio_value, div_mul_cancel₀ _ hb.ne']
  constructor
  · have hpos : (0 : ℚ) < (Binary.ratio den q).1 := by
      rw [ha]
      positivity
    exact_mod_cast hpos
  · rw [ha]
    push_cast
    field_simp

/-- The bits of a fraction whose last place and mantissa are known. -/
theorem bitsOfRatio_of_round {num den m : ℕ} {q : ℤ} (hden : 0 < den)
    (hq : Binary.exponentFor num den = q)
    (hlow : (m : ℚ) - 1 / 2 ≤ (num : ℚ) / den / 2 ^ q)
    (hhigh : (num : ℚ) / den / 2 ^ q ≤ m + 1 / 2)
    (htie : m % 2 = 0 ∨
      ((m : ℚ) - 1 / 2 < (num : ℚ) / den / 2 ^ q ∧ (num : ℚ) / den / 2 ^ q < m + 1 / 2)) :
    Binary.bitsOfRatio num den = min (Binary.pattern m q) (2047 * 2 ^ 52) := by
  obtain ⟨ha, hsteps⟩ := ratio_steps num hden q
  rw [← hsteps] at hlow hhigh htie
  have hround := roundDiv_of_near ha hlow hhigh htie
  have hbits : Binary.bitsOfRatio num den =
      min (Binary.pattern (roundDiv (num * (Binary.ratio den (Binary.exponentFor num den)).2)
        (Binary.ratio den (Binary.exponentFor num den)).1) (Binary.exponentFor num den))
        (2047 * 2 ^ 52) := rfl
  rw [hbits, hq, hround]

theorem pattern_lt {m : ℕ} {q : ℤ} (hcanonical : IsCanonical m q) (hmost : q ≤ 971) :
    Binary.pattern m q < 2047 * 2 ^ 52 := by
  have hlt := hcanonical.mantissa_lt
  unfold Binary.pattern
  split <;> omega

/-- What is rounded up to the next power of two has the pattern of that power. -/
theorem pattern_carry {q : ℤ} (hq : -1074 < q) :
    Binary.pattern (2 ^ 53) (q - 1) = Binary.pattern (2 ^ 52) q := by
  unfold Binary.pattern
  rw [if_neg (by decide), if_neg (by decide)]
  omega

/-- The number is in steps of the last place: at most half a step above the mantissa, and at most
half a step below it, or a quarter where the steps change. -/
theorem Decimal.Interval.Holds.steps {m : ℕ} {q : ℤ} {r : ℚ}
    (hr : (Interval.around m q).Holds q r) :
    ((Interval.around m q).low : ℚ) / 4 ≤ r / 2 ^ q ∧ r / 2 ^ q ≤ m + 1 / 2 ∧
      (m % 2 = 0 ∨
        (((Interval.around m q).low : ℚ) / 4 < r / 2 ^ q ∧ r / 2 ^ q < m + 1 / 2)) := by
  obtain ⟨hlow, hhigh, htie⟩ := hr
  have hpow : (0 : ℚ) < 2 ^ q := by positivity
  have hunit : (2 : ℚ) ^ (q - 2) = 2 ^ q / 4 := by
    rw [zpow_sub₀ (by norm_num)]
    norm_num
  have htop : ((Interval.around m q).high : ℚ) = 4 * m + 2 := by
    simp [Interval.around]
  rw [hunit] at hlow hhigh htie
  rw [htop] at hhigh htie
  refine ⟨?_, ?_, htie.imp (fun heven => of_decide_eq_true heven) fun ⟨hbelow, habove⟩ => ⟨?_, ?_⟩⟩
  · rw [le_div_iff₀ hpow]
    linarith
  · rw [div_le_iff₀ hpow]
    linarith
  · rw [lt_div_iff₀ hpow]
    linarith
  · rw [div_lt_iff₀ hpow]
    linarith

theorem around_low (m : ℕ) (q : ℤ) :
    (Interval.around m q).low = if m = 2 ^ 52 ∧ -1074 < q then 4 * m - 1 else 4 * m - 2 := rfl

theorem half_le_low {m : ℕ} (hm : 0 < m) (q : ℤ) :
    (m : ℚ) - 1 / 2 ≤ ((Interval.around m q).low : ℚ) / 4 := by
  rw [around_low]
  split <;>
  · rw [Nat.cast_sub (by omega)]
    push_cast
    linarith

/-- How large a fraction is in steps of a power of two is told by its logarithm. -/
theorem log_lt_iff {r : ℚ} (hr : 0 < r) (q : ℤ) (k : ℕ) :
    Int.log 2 r < q + k ↔ r / 2 ^ q < 2 ^ k := by
  rw [← Int.lt_zpow_iff_log_lt (by decide) hr, Nat.cast_ofNat, zpow_add₀ (by norm_num),
    div_lt_iff₀' (by positivity), zpow_natCast]

theorem div_two_zpow_pred (r : ℚ) (q : ℤ) : r / 2 ^ (q - 1) = 2 * (r / 2 ^ q) := by
  rw [zpow_sub_one₀ (by norm_num)]
  field_simp

section Rounding

variable {num den m : ℕ} {q : ℤ}

theorem bitsOfRatio_of_full (hden : 0 < den) (hm : 0 < m) (hcanonical : IsCanonical m q)
    (hmost : q ≤ 971) (hq : Binary.exponentFor num den = q)
    (hnear : (Interval.around m q).Holds q ((num : ℚ) / den)) :
    Binary.bitsOfRatio num den = Binary.pattern m q := by
  obtain ⟨hlow, hhigh, htie⟩ := hnear.steps
  have hhalf := half_le_low hm q
  rw [bitsOfRatio_of_round hden hq (hhalf.trans hlow) hhigh
    (htie.imp_right fun ⟨hbelow, habove⟩ => ⟨hhalf.trans_lt hbelow, habove⟩)]
  exact min_eq_left (pattern_lt hcanonical hmost).le

/-- A number that is rounded up past the leading place of a double is rounded to a power of two. -/
theorem eq_two_pow_of_below (hcanonical : IsCanonical m q) (hnormal : q ≠ -1074) {r : ℚ}
    (hlow : ((Interval.around m q).low : ℚ) / 4 ≤ r) (hbelow : r < 2 ^ 52) : m = 2 ^ 52 := by
  by_contra hne
  have hmore : 2 ^ 52 + 1 ≤ m := by
    have hfull := hcanonical.full.resolve_right hnormal
    omega
  rw [around_low, if_neg (by omega), Nat.cast_sub (by omega)] at hlow
  have hmore' : ((2 ^ 52 + 1 : ℕ) : ℚ) ≤ m := by exact_mod_cast hmore
  push_cast at hlow hmore'
  linarith

/-- Below a power of two the steps are half as large, and a quarter of a step is half of those. -/
theorem bitsOfRatio_of_short (hnum : 0 < num) (hden : 0 < den) (hnormal : -1074 < q)
    (hmost : q ≤ 971) (hshort : Int.log 2 ((num : ℚ) / den) < q + 52)
    (hnear : (Interval.around (2 ^ 52) q).Holds q ((num : ℚ) / den)) :
    Binary.bitsOfRatio num den = Binary.pattern (2 ^ 52) q := by
  obtain ⟨hlow, hhigh, -⟩ := hnear.steps
  have hr : (0 : ℚ) < (num : ℚ) / den :=
    div_pos (by exact_mod_cast hnum) (by exact_mod_cast hden)
  have hbelow : ((2 ^ 53 : ℕ) : ℚ) - 1 / 2 ≤ (num : ℚ) / den / 2 ^ (q - 1) := by
    rw [around_low, if_pos ⟨rfl, hnormal⟩] at hlow
    rw [div_two_zpow_pred]
    push_cast at hlow ⊢
    linarith
  have habove : (num : ℚ) / den / 2 ^ (q - 1) ≤ ((2 ^ 53 : ℕ) : ℚ) + 1 / 2 := by
    have hless : (num : ℚ) / den / 2 ^ q < 2 ^ 52 := (log_lt_iff hr q 52).mp hshort
    rw [div_two_zpow_pred]
    push_cast
    linarith
  have hq : Binary.exponentFor num den = q - 1 := by
    have hlarge : ¬ Int.log 2 ((num : ℚ) / den) < q - 1 + (52 : ℕ) := by
      rw [log_lt_iff hr, not_lt]
      refine le_trans ?_ hbelow
      norm_num
    have hexponent := Binary.exponentFor_eq hnum hden
    omega
  have hcanonical : IsCanonical (2 ^ 52) q := ⟨by decide, hnormal.le, .inl le_rfl⟩
  -- the mantissa of 54 digits carries into the exponent
  rw [bitsOfRatio_of_round hden hq hbelow habove (.inl rfl), pattern_carry hnormal]
  exact min_eq_left (pattern_lt hcanonical hmost).le

theorem bitsOfRatio_eq (hnum : 0 < num) (hden : 0 < den) (hm : 0 < m)
    (hcanonical : IsCanonical m q) (hmost : q ≤ 971)
    (hnear : (Interval.around m q).Holds q ((num : ℚ) / den)) :
    Binary.bitsOfRatio num den = Binary.pattern m q := by
  have hr : (0 : ℚ) < (num : ℚ) / den :=
    div_pos (by exact_mod_cast hnum) (by exact_mod_cast hden)
  have hexponent := Binary.exponentFor_eq hnum hden
  have hleast := hcanonical.exponent_ge
  obtain ⟨hlow, hhigh, -⟩ := hnear.steps
  have hlog : Int.log 2 ((num : ℚ) / den) < q + (53 : ℕ) := by
    have hbound : (m : ℚ) + 1 ≤ 2 ^ 53 := by exact_mod_cast hcanonical.mantissa_lt
    rw [log_lt_iff hr]
    linarith
  -- The last place of the fraction is that of the double, or else the one below it.
  by_cases hfull : q + 52 ≤ Int.log 2 ((num : ℚ) / den) ∨ q = -1074
  · exact bitsOfRatio_of_full hden hm hcanonical hmost (by omega) hnear
  · obtain ⟨hshort, hnormal⟩ := not_or.mp hfull
    have hbelow : (num : ℚ) / den / 2 ^ q < 2 ^ 52 := (log_lt_iff hr q 52).mp (not_le.mp hshort)
    obtain rfl := eq_two_pow_of_below hcanonical hnormal hlow hbelow
    exact bitsOfRatio_of_short hnum hden (by omega) hmost (not_le.mp hshort) hnear

end Rounding

/-- Every number in the interval of a double is read as that double. -/
theorem Binary.ofRatio_eq {x : Float} {negative : Bool} {m : ℕ} {q : ℤ}
    (hdecode : Binary.decode x = .finite negative m q) (hm : 0 < m) {num den : ℕ} (hnum : 0 < num)
    (hden : 0 < den) (hnear : (Interval.around m q).Holds q ((num : ℚ) / den)) :
    Binary.ofRatio negative num den = x := by
  obtain ⟨hcanonical, hmost, hbits⟩ := Binary.decoded_of_decode hdecode
  have hpattern := bitsOfRatio_eq hnum hden hm hcanonical hmost hnear
  rw [ofRatio, if_neg hnum.ne', hpattern]
  refine eq_of_bits ?_
  rw [hbits]
  cases negative <;> simp

theorem Binary.ofRatio_zero {x : Float} {negative : Bool} {q : ℤ}
    (hdecode : Binary.decode x = .finite negative 0 q) : Binary.ofRatio negative 0 1 = x := by
  obtain ⟨hcanonical, hmost, hbits⟩ := Binary.decoded_of_decode hdecode
  refine eq_of_bits ?_
  rw [hbits]
  cases negative <;> rfl

end Fiducial
