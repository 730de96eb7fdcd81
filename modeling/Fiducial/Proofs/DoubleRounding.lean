import Fiducial.Proofs.DoubleArithmetic

/-!
# Rounding of doubles

An unpacked double has a mantissa of 53 bits, or of fewer at the least exponent only.  Rounding
gives such a mantissa again, packing loses nothing of it unless the exponent is too large, and the
position of the leading digit moves up by one place at most.
-/

namespace Fiducial
namespace Double

open Float.Model (Format UnpackedFloat totalExponent)
open Float.Model.UnpackedFloat

/-! ## Canonical mantissas -/

/-- A mantissa of at most 53 bits, and of fewer at the least exponent only. -/
structure IsCanonical (m : Nat) (e : Int) : Prop where
  mantissa_lt : m < 2 ^ 53
  exponent_ge : -1074 ≤ e
  full : 2 ^ 52 ≤ m ∨ e = -1074

theorem log2_le_of_canonical {m : Nat} {e : Int} (hcanonical : IsCanonical m e) :
    m.log2 ≤ 52 := by
  by_cases hzero : m = 0
  · rw [hzero]
    simp
  · have := (Nat.log2_lt hzero).mpr hcanonical.mantissa_lt
    omega

theorem log2_eq_or_of_canonical {m : Nat} {e : Int} (hcanonical : IsCanonical m e) :
    m.log2 = 52 ∨ e = -1074 := by
  rcases hcanonical.full with hfull | hleast
  · left
    have hlow : 52 ≤ m.log2 := (Nat.le_log2 (by omega)).mpr hfull
    have hhigh := log2_le_of_canonical hcanonical
    omega
  · exact .inr hleast

theorem implicit_mantissa_toNat (v : BitVec 52) : (1#1 ++ v).toNat = 2 ^ 52 + v.toNat := by
  rw [BitVec.toNat_append, ← Nat.shiftLeft_add_eq_or_of_lt v.isLt]
  rfl

theorem isCanonical_of_unpack {b : BitVec Format.binary64.numBits} {s : Sign} {m : Nat} {e : Int}
    {h : 0 < m} (hb : UnpackedFloat.unpack Format.binary64 b = .finite s m e h) :
    IsCanonical m e := by
  have hbias : Format.binary64.exponentBias = 1023 := rfl
  have hmantissa : (unpackMantissa b).toNat < 2 ^ 52 := (unpackMantissa b).isLt
  unfold UnpackedFloat.unpack at hb
  dsimp only at hb
  split at hb
  · split at hb <;> cases hb
  · split at hb
    next hzero =>
      have hexponent : (unpackExponent b).toNat = 0 := by
        rw [hzero]
        rfl
      split at hb
      · cases hb
      · injection hb with _ hm he
        constructor <;> omega
    next hne =>
      have hexponent : (unpackExponent b).toNat ≠ 0 := by
        intro hzero
        exact hne (BitVec.eq_of_toNat_eq hzero)
      injection hb with _ hm he
      rw [implicit_mantissa_toNat] at hm
      constructor <;> omega

/-! ## Packing -/

theorem unpack_pack_finite (s : Sign) {m : Nat} {e : Int} (h : 0 < m)
    (hcanonical : IsCanonical m e) (he : e ≤ 971) :
    UnpackedFloat.unpack Format.binary64
      (UnpackedFloat.pack Format.binary64 (.finite s m e h)) = .finite s m e h := by
  have hbias : Format.binary64.exponentBias = 1023 := rfl
  have hwidth : Format.binary64.mantissaBits = 53 := rfl
  have hlt := hcanonical.mantissa_lt
  have hge := hcanonical.exponent_ge
  have hsmall : ¬ 2 ^ 11 ≤ (e + 1023 + 52).toNat + 1 := by omega
  by_cases hfull : 2 ^ 52 ≤ m
  · have hlog : m.log2 + 1 = 53 := by
      have hhigh : m.log2 = 52 := (Nat.log2_eq_iff (by omega)).mpr ⟨hfull, hlt⟩
      omega
    have hexponent : (BitVec.ofNat 11 (e + 1023 + 52).toNat).toNat = (e + 1023 + 52).toNat := by
      rw [BitVec.toNat_ofNat]
      omega
    have hmantissa : (1#1 ++ BitVec.ofNat 52 m).toNat = m := by
      rw [implicit_mantissa_toNat, BitVec.toNat_ofNat]
      omega
    have hinfinite : BitVec.ofNat 11 (e + 1023 + 52).toNat ≠ -1#11 := by
      intro htop
      have htoNat := congrArg BitVec.toNat htop
      rw [hexponent] at htoNat
      change _ = 2047 at htoNat
      omega
    have hsubnormal : BitVec.ofNat 11 (e + 1023 + 52).toNat ≠ 0#11 := by
      intro hzero
      have htoNat := congrArg BitVec.toNat hzero
      rw [hexponent] at htoNat
      change _ = 0 at htoNat
      omega
    have hpack : UnpackedFloat.pack Format.binary64 (.finite s m e h) =
        packComponents Format.binary64 s (BitVec.ofNat 11 (e + 1023 + 52).toNat)
          (BitVec.ofNat 52 m) := by
      unfold UnpackedFloat.pack
      exact (if_neg hsmall).trans (if_pos hlog)
    rw [hpack]
    unfold UnpackedFloat.unpack
    simp only [unpackExponent_packComponents, unpackMantissa_packComponents,
      unpackSign_packComponents, Sign.ofBitVec_toBitVec, hinfinite, hsubnormal, if_false,
      hmantissa, hexponent]
    congr 1
    change ((e + 1023 + 52).toNat : Int) - (1023 + 52) = e
    omega
  · have hleast : e = -1074 := hcanonical.full.resolve_left hfull
    have hlog : m.log2 + 1 ≠ 53 := by
      have hlow : m.log2 < 52 := (Nat.log2_lt (by omega)).mpr (by omega)
      omega
    have hmantissa : (BitVec.ofNat 52 m).toNat = m := by
      rw [BitVec.toNat_ofNat]
      omega
    have hne : BitVec.ofNat 52 m ≠ 0#52 := by
      intro hzero
      have htoNat := congrArg BitVec.toNat hzero
      rw [hmantissa] at htoNat
      change m = 0 at htoNat
      omega
    have hpack : UnpackedFloat.pack Format.binary64 (.finite s m e h) =
        packComponents Format.binary64 s 0#11 (BitVec.ofNat 52 m) := by
      unfold UnpackedFloat.pack
      exact (if_neg hsmall).trans (if_neg hlog)
    rw [hpack]
    unfold UnpackedFloat.unpack
    have hinfinite : (0#11) ≠ -1#11 := by decide
    simp only [unpackExponent_packComponents, unpackMantissa_packComponents,
      unpackSign_packComponents, Sign.ofBitVec_toBitVec, hinfinite, hne, if_false, if_true,
      dif_neg, hmantissa, not_false_eq_true]
    rw [hleast]
    rfl

theorem unpack_pack_infinite (s : Sign) {m : Nat} {e : Int} (h : 0 < m) (he : 971 < e) :
    UnpackedFloat.unpack Format.binary64
      (UnpackedFloat.pack Format.binary64 (.finite s m e h)) = .infinity s := by
  have hlarge : 2 ^ 11 ≤ (e + 1023 + 52).toNat + 1 := by omega
  have hpack : UnpackedFloat.pack Format.binary64 (.finite s m e h) =
      packedInfinity Format.binary64 s := by
    unfold UnpackedFloat.pack
    exact if_pos hlarge
  rw [hpack]
  cases s <;> rfl

/-! ## Rounding -/

/-- The exponent to which a number is rounded. -/
def roundedExponent (m : Nat) (e : Int) : Int := max (totalExponent m e - 53) (-1074)

theorem le_roundedMantissa (em : ExtendedMantissa) : em.mantissa ≤ em.roundedMantissa := by
  obtain ⟨m, r, s⟩ := em
  cases r <;> cases s <;>
    simp [ExtendedMantissa.roundedMantissa, ExtendedMantissa.accuracy,
      Accuracy.roundToNearestEven]

theorem shiftToTargetExponent_eq {m : Nat} {e : Int} (he : e ≤ roundedExponent m e)
    (a : Accuracy) :
    shiftToTargetExponent Format.binary64 m e a =
      (ExtendedMantissa.ofMantissaAndAccuracy m a >>> (roundedExponent m e - e).toNat,
        roundedExponent m e) := by
  have htarget : Format.binary64.targetExponent (totalExponent m e) = roundedExponent m e :=
    targetExponent_binary64 _
  unfold shiftToTargetExponent shiftToExponent
  dsimp only
  rw [htarget]
  congr 1
  omega

theorem quotient_lt_of_rounded {m : Nat} {e : Int} (he : e ≤ roundedExponent m e) :
    m / 2 ^ (roundedExponent m e - e).toNat < 2 ^ 53 := by
  apply Nat.div_lt_of_lt_mul
  have hlog : m.log2 + 1 ≤ (roundedExponent m e - e).toNat + 53 := by
    unfold roundedExponent totalExponent at *
    omega
  calc
    m < 2 ^ (m.log2 + 1) := Nat.lt_log2_self
    _ ≤ 2 ^ ((roundedExponent m e - e).toNat + 53) := Nat.pow_le_pow_right (by decide) hlog
    _ = 2 ^ (roundedExponent m e - e).toNat * 2 ^ 53 := pow_add _ _ _

/-- A mantissa that has no more than 53 bits already is not shifted. -/
theorem shift_of_lt {r : Nat} {e : Int} (hr : r < 2 ^ 53) (he : -1074 ≤ e) :
    shiftToTargetExponent Format.binary64 r e .exact = (⟨r, false, false⟩, e) := by
  have hlog : r.log2 ≤ 52 := by
    by_cases hzero : r = 0
    · rw [hzero]
      simp
    · have := (Nat.log2_lt hzero).mpr hr
      omega
  have hkeep : (Format.binary64.targetExponent (totalExponent r e) - e).toNat = 0 := by
    rw [targetExponent_binary64]
    unfold totalExponent
    omega
  unfold shiftToTargetExponent shiftToExponent
  dsimp only
  rw [hkeep, Int.natCast_zero, add_zero]
  rfl

theorem shift_of_carry {e : Int} (he : -1074 ≤ e) :
    shiftToTargetExponent Format.binary64 (2 ^ 53) e .exact = (⟨2 ^ 52, false, false⟩, e + 1) := by
  have hlog : (2 ^ 53).log2 = 53 := Nat.log2_two_pow
  have hone : (Format.binary64.targetExponent (totalExponent (2 ^ 53) e) - e).toNat = 1 := by
    rw [targetExponent_binary64]
    unfold totalExponent
    omega
  unfold shiftToTargetExponent shiftToExponent
  dsimp only
  rw [hone]
  rfl

def finish (s : Sign) (p : ExtendedMantissa × Int) : UnpackedFloat :=
  if h : p.1.mantissa = 0 then .zero s
  else .finite s p.1.mantissa p.2 (Nat.pos_of_ne_zero h)

/-- A number is rounded to 53 bits or to the least exponent; what is rounded up to a power of two
with one bit more has its exponent increased instead. -/
theorem roundWithAccuracy_eq (s : Sign) {m : Nat} {e : Int} (he : e ≤ roundedExponent m e)
    (a : Accuracy) :
    ∃ r, m / 2 ^ (roundedExponent m e - e).toNat ≤ r ∧
      r ≤ m / 2 ^ (roundedExponent m e - e).toNat + 1 ∧
      roundWithAccuracy Format.binary64 s m e a =
        if h : r = 0 then .zero s
        else if r < 2 ^ 53 then .finite s r (roundedExponent m e) (Nat.pos_of_ne_zero h)
        else .finite s (2 ^ 52) (roundedExponent m e + 1) (by decide) := by
  let em := ExtendedMantissa.ofMantissaAndAccuracy m a >>> (roundedExponent m e - e).toNat
  have hquotient : em.mantissa = m / 2 ^ (roundedExponent m e - e).toNat := by
    rw [shiftRight_mantissa, ofMantissaAndAccuracy_mantissa]
  have hlow := le_roundedMantissa em
  have hhigh := roundedMantissa_le em
  have hlt := quotient_lt_of_rounded he
  have hleast : -1074 ≤ roundedExponent m e := le_max_right _ _
  rw [hquotient] at hlow hhigh
  refine ⟨em.roundedMantissa, hlow, hhigh, ?_⟩
  unfold roundWithAccuracy
  rw [shiftToTargetExponent_eq he]
  dsimp only
  change finish s (shiftToTargetExponent Format.binary64 em.roundedMantissa
    (roundedExponent m e) .exact) = _
  by_cases hr : em.roundedMantissa < 2 ^ 53
  · simp only [shift_of_lt hr hleast, hr, if_true]
    rfl
  · have hcarry : em.roundedMantissa = 2 ^ 53 := by omega
    rw [hcarry, shift_of_carry hleast]
    rfl

/-- Above the least exponent no leading digit is lost. -/
theorem quotient_full {m : Nat} {e : Int} (hm : 0 < m) (he : e ≤ roundedExponent m e)
    (hnormal : -1074 ≤ totalExponent m e - 53) :
    2 ^ 52 ≤ m / 2 ^ (roundedExponent m e - e).toNat := by
  have hexponent : roundedExponent m e = totalExponent m e - 53 := max_eq_left hnormal
  have hshift : m.log2 = 52 + (roundedExponent m e - e).toNat := by
    unfold totalExponent at hexponent
    omega
  apply (Nat.le_div_iff_mul_le (by positivity)).mpr
  calc
    2 ^ 52 * 2 ^ (roundedExponent m e - e).toNat = 2 ^ m.log2 := by rw [← pow_add, hshift]
    _ ≤ m := Nat.log2_self_le (by omega)

/-- The leading digit of a rounded number is at most one place higher. -/
theorem totalExponent_rounded_le {m r : Nat} {e : Int} (he : e ≤ roundedExponent m e)
    (hr : r ≤ m / 2 ^ (roundedExponent m e - e).toNat + 1) :
    totalExponent r (roundedExponent m e) ≤ max (totalExponent m e + 1) (-1072) := by
  have hlog := log2_rounded_quotient_le hr
  unfold roundedExponent totalExponent at *
  omega

theorem roundWithAccuracy_zero_or_canonical (s : Sign) {m : Nat} {e : Int}
    (he : e ≤ roundedExponent m e) (a : Accuracy) :
    roundWithAccuracy Format.binary64 s m e a = .zero s ∨
      ∃ n d h, roundWithAccuracy Format.binary64 s m e a = .finite s n d h ∧ IsCanonical n d ∧
        totalExponent n d ≤ max (totalExponent m e + 1) (-1072) := by
  obtain ⟨r, hlow, hhigh, hround⟩ := roundWithAccuracy_eq s he a
  have htotal := totalExponent_rounded_le he hhigh
  have hlt := quotient_lt_of_rounded he
  have hleast : -1074 ≤ roundedExponent m e := le_max_right _ _
  rw [hround]
  by_cases hzero : r = 0
  · left
    rw [dif_pos hzero]
  · right
    rw [dif_neg hzero]
    by_cases hr : r < 2 ^ 53
    · rw [if_pos hr]
      refine ⟨_, _, _, rfl, ⟨hr, hleast, ?_⟩, htotal⟩
      by_cases hnormal : -1074 < totalExponent m e - 53
      · left
        have hm : 0 < m := by
          by_contra hnone
          have hlog : m.log2 = 0 := by rw [Nat.eq_zero_of_not_pos hnone, Nat.log2_zero]
          unfold roundedExponent totalExponent at *
          omega
        exact le_trans (quotient_full hm he (le_of_lt hnormal)) hlow
      · exact .inr (max_eq_right (not_lt.mp hnormal))
    · rw [if_neg hr]
      refine ⟨_, _, _, rfl, ⟨by decide, by omega, .inl le_rfl⟩, ?_⟩
      have hcarry : r = 2 ^ 53 := by omega
      have hlog : (2 ^ 53).log2 = 53 := Nat.log2_two_pow
      have hlog' : (2 ^ 52).log2 = 52 := Nat.log2_two_pow
      rw [hcarry] at htotal
      unfold totalExponent at *
      omega

/-- A number above the least exponent is not rounded to a smaller leading digit. -/
theorem roundWithAccuracy_of_normal (s : Sign) {m : Nat} {e : Int} (hm : 0 < m)
    (he : e ≤ roundedExponent m e) (hnormal : -1021 ≤ totalExponent m e) (a : Accuracy) :
    ∃ n d h, roundWithAccuracy Format.binary64 s m e a = .finite s n d h ∧ IsCanonical n d ∧
      totalExponent m e ≤ totalExponent n d := by
  obtain ⟨r, hlow, hhigh, hround⟩ := roundWithAccuracy_eq s he a
  have hfull := quotient_full hm he (by omega)
  have hexponent : roundedExponent m e = totalExponent m e - 53 := max_eq_left (by omega)
  have hne : r ≠ 0 := by omega
  rw [dif_neg hne] at hround
  rw [hround]
  by_cases hr : r < 2 ^ 53
  · rw [if_pos hr]
    have hlog : r.log2 = 52 := (Nat.log2_eq_iff hne).mpr ⟨by omega, hr⟩
    refine ⟨_, _, _, rfl, ⟨hr, by omega, .inl (by omega)⟩, ?_⟩
    rw [hexponent]
    unfold totalExponent
    omega
  · rw [if_neg hr]
    have hlog : (2 ^ 52).log2 = 52 := Nat.log2_two_pow
    refine ⟨_, _, _, rfl, ⟨by decide, by omega, .inl le_rfl⟩, ?_⟩
    rw [hexponent]
    unfold totalExponent
    omega

end Double
end Fiducial
