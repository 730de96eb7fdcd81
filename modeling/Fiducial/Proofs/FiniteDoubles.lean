import Fiducial.Covariance
import Fiducial.Proofs.DoubleArithmetic
import Fiducial.Proofs.ExactArithmetic

/-!
# Finite doubles

A difference of doubles can be finite only if what is subtracted from is finite, and a finite double
stays finite when it is divided by a double that is at least four.  A finite double that is not at
most zero stands for a number that is not negative.
-/

namespace Fiducial
namespace Double

open Float.Model (Format UnpackedFloat totalExponent)
open Float.Model.UnpackedFloat

/-! ## Differences -/

theorem sub_not_finite (spec : Format) {u : UnpackedFloat} (hu : u.isFinite = false)
    (v : UnpackedFloat) : (UnpackedFloat.sub spec u v).isFinite = false := by
  cases u with
  | notANumber => rfl
  | infinity s =>
      cases v with
      | infinity t => cases s <;> cases t <;> rfl
      | _ => rfl
  | zero s => cases hu
  | finite s m e h => cases hu

/-- Only a finite number is packed as a finite double. -/
theorem isFinite_of_unpack_pack {u : UnpackedFloat} (hpacked : (UnpackedFloat.unpack
    Format.binary64 (UnpackedFloat.pack Format.binary64 u)).isFinite = true) :
    u.isFinite = true := by
  cases u with
  | notANumber => cases hpacked
  | infinity s => cases s <;> cases hpacked
  | zero s => rfl
  | finite s m e h => rfl

/-- A difference is finite only if what is subtracted from is finite. -/
theorem isFinite_of_sub {x y : Float} (hsub : (x - y).isFinite = true) : x.isFinite = true := by
  by_contra hx
  have hmodel : x.toModel.unpack.isFinite = false := Bool.eq_false_of_not_eq_true hx
  have hfinite : (UnpackedFloat.sub Format.binary64 x.toModel.unpack
      y.toModel.unpack).isFinite = true := isFinite_of_unpack_pack hsub
  rw [sub_not_finite Format.binary64 hmodel] at hfinite
  cases hfinite

/-! ## Quotients -/

theorem log2_quotient_le {m n shift : Nat} (hm : m < 2 ^ 53) (hn : 2 ^ 52 ≤ n) :
    (m * 2 ^ shift / n).log2 ≤ shift := by
  by_cases hzero : m * 2 ^ shift / n = 0
  · simp [hzero]
  · have hquotient : m * 2 ^ shift / n < 2 ^ (shift + 1) := by
      apply Nat.div_lt_of_lt_mul
      calc
        m * 2 ^ shift < 2 ^ 53 * 2 ^ shift := Nat.mul_lt_mul_of_pos_right hm (by positivity)
        _ = 2 ^ 52 * 2 ^ (shift + 1) := by ring
        _ ≤ n * 2 ^ (shift + 1) := Nat.mul_le_mul_right _ hn
    have := (Nat.log2_lt hzero).mpr hquotient
    omega

theorem divCore_bounds {m n : Nat} {e d : Int} (hdouble : IsDouble m e) (hn : 2 ^ 52 ≤ n)
    (hd : -50 ≤ d) :
    (divCore Format.binary64 m e n d).2.1 ≤ 971 ∧
      totalExponent (divCore Format.binary64 m e n d).1 (divCore Format.binary64 m e n d).2.1 ≤
        1022 := by
  obtain ⟨hm, he⟩ := hdouble
  let t := (divCore Format.binary64 m e n d).2.1
  let shift := (e - d - t).toNat
  have htarget :
      t = min (e - d) (max (totalExponent m e - totalExponent n d - 53) (-1074)) := rfl
  have hquotient : (divCore Format.binary64 m e n d).1 = m * 2 ^ shift / n := by
    change m <<< shift / n = _
    rw [Nat.shiftLeft_eq]
  have hlog : (m * 2 ^ shift / n).log2 ≤ shift := log2_quotient_le hm hn
  have hmlog : m.log2 ≤ 52 := by
    by_cases hzero : m = 0
    · simp [hzero]
    · have := (Nat.log2_lt hzero).mpr hm
      omega
  have hnlog : 52 ≤ n.log2 := (Nat.le_log2 (by omega)).mpr hn
  have hshift : (shift : Int) = max (e - d - t) 0 := Int.toNat_eq_max _
  rw [hquotient]
  change t ≤ 971 ∧ totalExponent _ t ≤ 1022
  clear_value t shift
  unfold totalExponent at *
  omega

theorem isFinite_unpack_pack_zero (s : Sign) :
    (UnpackedFloat.unpack Format.binary64
      (UnpackedFloat.pack Format.binary64 (.zero s))).isFinite = true := by
  cases s <;> rfl

/-- The divisor is at least four, with either sign. -/
theorem isFinite_div {u : UnpackedFloat} (hfinite : u.isFinite = true)
    {b : BitVec Format.binary64.numBits} (hb : UnpackedFloat.unpack Format.binary64 b = u)
    {t : Sign} {n : Nat} {d : Int} {k : 0 < n} (hn : 2 ^ 52 ≤ n) (hd : -50 ≤ d) :
    (UnpackedFloat.unpack Format.binary64
      (UnpackedFloat.pack Format.binary64
        (UnpackedFloat.div Format.binary64 u (.finite t n d k)))).isFinite = true := by
  cases u with
  | notANumber => cases hfinite
  | infinity s => cases hfinite
  | zero s => exact isFinite_unpack_pack_zero (s / t)
  | finite s m e h =>
      obtain ⟨hexponent, htotal⟩ := divCore_bounds (isDouble_of_unpack hb) hn hd
      simp only [UnpackedFloat.div]
      obtain hround | ⟨r, c, hr, hround⟩ :=
        roundWithAccuracy_zero_or_finite Format.binary64 (s / t)
          (divCore Format.binary64 m e n d).1 (divCore Format.binary64 m e n d).2.1
          (divCore Format.binary64 m e n d).2.2
      · rw [hround]
        exact isFinite_unpack_pack_zero (s / t)
      · have hc : c ≤ 971 :=
          roundWithAccuracy_exponent_le hexponent htotal (by decide) _ hround
        rw [hround]
        exact isFinite_unpack_pack (s / t) hr hc

theorem unpack_referenceDistance :
    ∃ h, (Covariance.referenceDistance : Float).toModel.unpack =
      .finite .positive (5 * 2 ^ 50) (-50) h := by
  have hbits : (Covariance.referenceDistance : Float).toModel.toBits.toBitVec =
      0x4014000000000000#64 := by
    decide +kernel
  unfold Float.Model.unpack
  rw [hbits]
  exact ⟨by decide, rfl⟩

theorem isFinite_div_referenceDistance {x : Float} (hx : x.isFinite = true) :
    (x / Covariance.referenceDistance).isFinite = true := by
  obtain ⟨h, hreference⟩ := unpack_referenceDistance
  change (UnpackedFloat.unpack Format.binary64
    (UnpackedFloat.pack Format.binary64
      (UnpackedFloat.div Format.binary64 x.toModel.unpack
        (Covariance.referenceDistance : Float).toModel.unpack))).isFinite = true
  rw [hreference]
  exact isFinite_div hx rfl (by decide) (by decide)

/-! ## Order -/

theorem le_of_lt {x y : Float} (hlt : Scalar.lt x y = true) : x ≤ y := by
  rw [lt_unpack] at hlt
  rw [le_unpack]
  unfold UnpackedFloat.lt at hlt
  unfold UnpackedFloat.le
  cases hcompare : UnpackedFloat.compare x.toModel.unpack y.toModel.unpack with
  | none =>
      rw [hcompare] at hlt
      cases hlt
  | some o =>
      rw [hcompare] at hlt
      cases o with
      | lt => rfl
      | eq => cases hlt
      | gt => cases hlt

/-- A finite double that is not below a finite one is at least as large. -/
theorem le_of_not_lt {x y : Float} (hx : x.isFinite = true) (hy : y.isFinite = true)
    (hnot : Scalar.lt y x = false) : x ≤ y := by
  rcases (not_above_iff hx).mp hnot with hle | hnan
  · exact hle
  · have hnumber := isNaN_of_isFinite hy
    rw [show y.toModel.unpack.isNaN = true from hnan] at hnumber
    cases hnumber

theorem lt_iff_not_le {x y : Float} (hx : x.isFinite = true) (hy : y.isFinite = true) :
    x < y ↔ ¬ y ≤ x := by
  have habove : Scalar.lt x y = decide (x < y) := rfl
  constructor
  · intro hlt hle
    have hnot := (not_above_iff hy).mpr (.inl hle)
    rw [habove] at hnot
    exact of_decide_eq_false hnot hlt
  · intro hnot
    by_contra hlt
    have hfalse : Scalar.lt x y = false := decide_eq_false hlt
    exact hnot (le_of_not_lt hy hx hfalse)

/-! ## Values -/

theorem toNat_lt_of_positive {b : BitVec Format.binary64.numBits}
    (hsign : Sign.ofBitVec (UnpackedFloat.unpackSign b) = .positive) : b.toNat < 2 ^ 63 := by
  have hzero : UnpackedFloat.unpackSign b = 0#1 := by
    by_contra hne
    simp [Sign.ofBitVec, hne] at hsign
  have hbit : b.toNat / 2 ^ 63 % 2 = 0 := by
    have htoNat := congrArg BitVec.toNat hzero
    simpa [UnpackedFloat.unpackSign, BitVec.extractLsb, BitVec.extractLsb'_toNat,
      Nat.shiftRight_eq_div_pow] using htoNat
  have hlt : b.toNat < 2 ^ 64 := b.isLt
  omega

theorem sign_of_unpack {b : BitVec Format.binary64.numBits} {s : Sign} {m : Nat} {e : Int}
    {h : 0 < m} (hb : UnpackedFloat.unpack Format.binary64 b = .finite s m e h) :
    Sign.ofBitVec (UnpackedFloat.unpackSign b) = s := by
  unfold UnpackedFloat.unpack at hb
  dsimp only at hb
  split at hb
  · split at hb <;> cases hb
  · split at hb
    · split at hb
      · cases hb
      · injection hb
    · injection hb

theorem unpack_of_pos {x : Float} (hx : x.isFinite = true) (hpos : ¬ x ≤ 0.0) :
    ∃ m e h, x.toModel.unpack = .finite .positive m e h := by
  have hfinite : x.toModel.unpack.isFinite = true := hx
  have hzero : (0.0 : Float).toModel.unpack = .zero .positive := rfl
  rw [le_unpack, hzero] at hpos
  cases hunpack : x.toModel.unpack with
  | notANumber =>
      rw [hunpack] at hfinite
      cases hfinite
  | infinity s =>
      rw [hunpack] at hfinite
      cases hfinite
  | zero s =>
      rw [hunpack] at hpos
      exact absurd rfl hpos
  | finite s m e h =>
      cases s with
      | positive => exact ⟨m, e, h, rfl⟩
      | negative =>
          rw [hunpack] at hpos
          exact absurd rfl hpos

theorem negative_of_decode {x : Float} (hbits : x.toBits.toNat < 2 ^ 63) {negative : Bool}
    {mantissa : Nat} {exponent : Int}
    (hdecode : Binary.decode x = .finite negative mantissa exponent) : negative = false := by
  have hsign : decide (Nat.pow 2 63 ≤ x.toBits.toNat) = false :=
    decide_eq_false (Nat.not_le.mpr hbits)
  unfold Binary.decode at hdecode
  dsimp only at hdecode
  rw [hsign] at hdecode
  split at hdecode
  · split at hdecode <;> cases hdecode
  · split at hdecode
    · injection hdecode with hnegative
      exact hnegative.symm
    · injection hdecode with hnegative
      exact hnegative.symm

/-- A finite double that is not at most zero stands for a number that is not negative. -/
theorem value_nonneg {x : Float} (hx : x.isFinite = true) (hpos : ¬ x ≤ 0.0) :
    0 ≤ Binary.value x := by
  obtain ⟨m, e, h, hunpack⟩ := unpack_of_pos hx hpos
  have hbits : x.toBits.toNat < 2 ^ 63 := toNat_lt_of_positive (sign_of_unpack hunpack)
  unfold Binary.value
  cases hdecode : Binary.decode x with
  | nan => exact le_rfl
  | infinite negative => exact le_rfl
  | finite negative mantissa exponent =>
      have hnegative := negative_of_decode hbits hdecode
      subst hnegative
      simp only [Bool.false_eq_true, if_false]
      positivity

end Double
end Fiducial
