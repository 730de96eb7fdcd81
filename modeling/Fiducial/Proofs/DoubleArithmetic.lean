import Fiducial.Geometry.Vector
import Mathlib

/-!
# Order, sign and square roots of doubles

Three facts about doubles decide what the gates and the covariance can do.  A finite double that is
not above a bound is at most the bound, unless the bound is not a number.  A sum of squares is
never negative.  The square root of a finite double that is not negative is finite again.  All
three are read off the logical model of the doubles, in which an operation unpacks its arguments,
computes with a sign, a mantissa and an exponent, rounds, and packs the result.
-/

namespace Fiducial
namespace Double

open Float.Model (Format UnpackedFloat totalExponent)
open Float.Model.UnpackedFloat

/-! ## Order -/

theorem compare_swap (x y : UnpackedFloat) :
    UnpackedFloat.compare y x = (UnpackedFloat.compare x y).map Ordering.swap := by
  cases x with
  | notANumber =>
      cases y <;> rfl
  | infinity s =>
      cases y with
      | infinity t => cases s <;> cases t <;> rfl
      | _ => cases s <;> rfl
  | zero s =>
      cases y with
      | finite t m e h => cases t <;> rfl
      | infinity t => cases t <;> rfl
      | _ => rfl
  | finite s m e h =>
      cases y with
      | finite t n d k =>
          have hthen :
              (compare d e).then (compare n m) =
                ((compare e d).then (compare m n)).swap := by
            rw [Ordering.swap_then, Std.OrientedOrd.eq_swap (a := d) (b := e),
              Std.OrientedOrd.eq_swap (a := n) (b := m)]
          cases s <;> cases t <;> simp [UnpackedFloat.compare, hthen]
      | infinity t => cases s <;> cases t <;> rfl
      | zero t => cases s <;> rfl
      | notANumber => cases s <;> rfl

theorem compare_eq_none_iff (x y : UnpackedFloat) :
    UnpackedFloat.compare x y = none ↔ x.isNaN = true ∨ y.isNaN = true := by
  cases x with
  | notANumber => simp [UnpackedFloat.compare, UnpackedFloat.isNaN]
  | infinity s => cases s <;> cases y <;> simp [UnpackedFloat.compare, UnpackedFloat.isNaN]
  | zero s =>
      cases y with
      | finite t m e h => cases t <;> simp [UnpackedFloat.compare, UnpackedFloat.isNaN]
      | infinity t => cases t <;> simp [UnpackedFloat.compare, UnpackedFloat.isNaN]
      | _ => simp [UnpackedFloat.compare, UnpackedFloat.isNaN]
  | finite s m e h =>
      cases y with
      | finite t n d k =>
          cases s <;> cases t <;> simp [UnpackedFloat.compare, UnpackedFloat.isNaN]
      | infinity t =>
          cases s <;> cases t <;> simp [UnpackedFloat.compare, UnpackedFloat.isNaN]
      | _ => cases s <;> simp [UnpackedFloat.compare, UnpackedFloat.isNaN]

theorem lt_eq_false_iff (b x : UnpackedFloat) (hx : x.isNaN = false) :
    b.lt x = false ↔ x.le b = true ∨ b.isNaN = true := by
  unfold UnpackedFloat.lt UnpackedFloat.le
  rw [compare_swap b x]
  cases hcompare : UnpackedFloat.compare b x with
  | none =>
      have hnan := (compare_eq_none_iff b x).mp hcompare
      simpa [hx] using hnan
  | some o =>
      have hb : b.isNaN = false := by
        by_contra hne
        have hnone := (compare_eq_none_iff b x).mpr (.inl (by simpa using hne))
        rw [hnone] at hcompare
        cases hcompare
      cases o <;> simp [hb]

theorem lt_unpack (b x : Float) :
    Scalar.lt b x = b.toModel.unpack.lt x.toModel.unpack := by
  change decide (b.lt x = true) = _
  rw [Bool.decide_eq_true]
  change decide (b.toModel.lt x.toModel = true) = _
  rw [Bool.decide_eq_true]
  rfl

theorem le_unpack (x b : Float) :
    x ≤ b ↔ x.toModel.unpack.le b.toModel.unpack = true := by
  change x.le b = true ↔ _
  change decide (x.toModel.le b.toModel = true) = true ↔ _
  rw [Bool.decide_eq_true]
  rfl

theorem isNaN_of_isFinite {x : Float} (hx : x.isFinite = true) :
    x.toModel.unpack.isNaN = false := by
  have hmodel : x.toModel.unpack.isFinite = true := hx
  cases hunpack : x.toModel.unpack with
  | notANumber =>
      rw [hunpack] at hmodel
      cases hmodel
  | _ => rfl

theorem compare_self {x : UnpackedFloat} (hx : x.isNaN = false) :
    UnpackedFloat.compare x x = some .eq := by
  cases x with
  | notANumber => cases hx
  | infinity s => cases s <;> rfl
  | zero s => rfl
  | finite s m e h => cases s <;> simp [UnpackedFloat.compare]

theorem le_self {x : Float} (hx : x.isFinite = true) : x ≤ x := by
  rw [le_unpack]
  unfold UnpackedFloat.le
  rw [compare_self (isNaN_of_isFinite hx)]
  rfl

/-- A finite double that is not above a bound is at most the bound, or the bound is no number. -/
theorem not_above_iff {bound x : Float} (hx : x.isFinite = true) :
    Scalar.lt bound x = false ↔ x ≤ bound ∨ bound.isNaN = true := by
  rw [lt_unpack, le_unpack]
  exact lt_eq_false_iff _ _ (isNaN_of_isFinite hx)

/-! ## Sign -/

/-- Whether an unpacked double has no minus sign; what is not a number has no sign. -/
def IsUnsigned : UnpackedFloat → Prop
  | .notANumber => True
  | .infinity s | .zero s | .finite s .. => s = .positive

theorem isUnsigned_unpack_components (spec : Format) (e : BitVec spec.exponentBits)
    (m : BitVec spec.mantissaBitsWithoutImplicit) :
    IsUnsigned (unpack spec (packComponents spec .positive e m)) := by
  have hsign :
      Sign.ofBitVec (unpackSign (packComponents spec .positive e m)) = .positive := by
    rw [unpackSign_packComponents, Sign.ofBitVec_toBitVec]
  unfold unpack
  simp only [hsign]
  split
  · split
    · rfl
    · trivial
  · split
    · split <;> rfl
    · rfl

theorem isUnsigned_unpack_pack {u : UnpackedFloat} (hu : IsUnsigned u) (spec : Format) :
    IsUnsigned (unpack spec (pack spec u)) := by
  cases u with
  | notANumber => exact isUnsigned_unpack_components spec _ _
  | infinity s =>
      subst hu
      exact isUnsigned_unpack_components spec _ _
  | zero s =>
      subst hu
      exact isUnsigned_unpack_components spec _ _
  | finite s m e h =>
      subst hu
      unfold pack
      dsimp only
      split
      · exact isUnsigned_unpack_components spec _ _
      · split <;> exact isUnsigned_unpack_components spec _ _

theorem roundWithAccuracy_zero_or_finite (spec : Format) (s : Sign) (m : Nat) (e : Int)
    (a : Accuracy) :
    roundWithAccuracy spec s m e a = .zero s ∨
      ∃ n d h, roundWithAccuracy spec s m e a = .finite s n d h := by
  unfold roundWithAccuracy
  dsimp only
  split
  next => exact .inl rfl
  next hne => exact .inr ⟨_, _, Nat.pos_of_ne_zero hne, rfl⟩

theorem isUnsigned_roundWithAccuracy (spec : Format) (m : Nat) (e : Int) (a : Accuracy) :
    IsUnsigned (roundWithAccuracy spec .positive m e a) := by
  obtain hround | ⟨n, d, h, hround⟩ :=
      roundWithAccuracy_zero_or_finite spec .positive m e a <;>
    rw [hround] <;> rfl

theorem isUnsigned_mul_self (spec : Format) (u : UnpackedFloat) :
    IsUnsigned (UnpackedFloat.mul spec u u) := by
  cases u with
  | notANumber => trivial
  | infinity s => cases s <;> rfl
  | zero s => cases s <;> rfl
  | finite s m e h =>
      have hsign : s * s = .positive := by cases s <;> rfl
      simp only [UnpackedFloat.mul, hsign]
      exact isUnsigned_roundWithAccuracy spec _ _ _

theorem isUnsigned_add {u v : UnpackedFloat} (hu : IsUnsigned u) (hv : IsUnsigned v)
    (spec : Format) : IsUnsigned (UnpackedFloat.add spec u v) := by
  cases u with
  | notANumber => trivial
  | infinity s =>
      subst hu
      cases v with
      | infinity t =>
          subst hv
          rfl
      | notANumber => trivial
      | _ => rfl
  | zero s =>
      subst hu
      cases v with
      | zero t =>
          subst hv
          rfl
      | notANumber => trivial
      | _ => exact hv
  | finite s m e h =>
      subst hu
      cases v with
      | finite t n d k =>
          subst hv
          simp only [UnpackedFloat.add, UnpackedFloat.normalize, Sign.apply]
          split
          next hlt =>
            rw [Int.compare_eq_lt] at hlt
            omega
          next => rfl
          next => exact isUnsigned_roundWithAccuracy spec _ _ _
      | notANumber => trivial
      | infinity t => exact hv
      | zero t => rfl

theorem isUnsigned_sqrt {u : UnpackedFloat} (hu : IsUnsigned u) (spec : Format) :
    IsUnsigned (UnpackedFloat.sqrt spec u) := by
  cases u with
  | notANumber => trivial
  | infinity s =>
      subst hu
      rfl
  | zero s => exact hu
  | finite s m e h =>
      subst hu
      exact isUnsigned_roundWithAccuracy spec _ _ _

theorem isUnsigned_square (x : Float) : IsUnsigned (x * x).toModel.unpack :=
  isUnsigned_unpack_pack (isUnsigned_mul_self _ _) _

theorem isUnsigned_sum {x y : Float} (hx : IsUnsigned x.toModel.unpack)
    (hy : IsUnsigned y.toModel.unpack) : IsUnsigned (x + y).toModel.unpack :=
  isUnsigned_unpack_pack (isUnsigned_add hx hy _) _

theorem isUnsigned_root {x : Float} (hx : IsUnsigned x.toModel.unpack) :
    IsUnsigned (Float.sqrt x).toModel.unpack :=
  isUnsigned_unpack_pack (isUnsigned_sqrt hx _) _

/-- The squared length of a vector of doubles has no minus sign. -/
theorem isUnsigned_normSq (v : Vec3 Float) : IsUnsigned v.normSq.toModel.unpack :=
  isUnsigned_sum (isUnsigned_sum (isUnsigned_square v.x) (isUnsigned_square v.y))
    (isUnsigned_square v.z)

theorem not_lt_zero_of_isUnsigned {x : Float} (hx : IsUnsigned x.toModel.unpack) :
    Scalar.lt x Zero.zero = false := by
  have hzero : (Zero.zero : Float).toModel.unpack = .zero .positive := rfl
  rw [lt_unpack, hzero]
  cases hunpack : x.toModel.unpack with
  | notANumber => rfl
  | infinity s =>
      rw [hunpack] at hx
      subst hx
      rfl
  | zero s => rfl
  | finite s m e h =>
      rw [hunpack] at hx
      subst hx
      rfl

/-! ## Square roots -/

theorem shiftRight_mantissa (em : ExtendedMantissa) (k : Nat) :
    (em >>> k).mantissa = em.mantissa / 2 ^ k := by
  induction k with
  | zero => simp [HShiftRight.hShiftRight, Nat.repeat]
  | succ k ih =>
      calc
        (em >>> (k + 1)).mantissa = (em >>> k).mantissa / 2 := rfl
        _ = em.mantissa / 2 ^ k / 2 := by rw [ih]
        _ = em.mantissa / 2 ^ (k + 1) := by rw [Nat.div_div_eq_div_mul, pow_succ]

theorem roundedMantissa_le (em : ExtendedMantissa) : em.roundedMantissa ≤ em.mantissa + 1 := by
  obtain ⟨m, r, s⟩ := em
  cases r <;> cases s <;>
    simp [ExtendedMantissa.roundedMantissa, ExtendedMantissa.accuracy,
      Accuracy.roundToNearestEven]
  omega

theorem ofMantissaAndAccuracy_mantissa (m : Nat) (a : Accuracy) :
    (ExtendedMantissa.ofMantissaAndAccuracy m a).mantissa = m := by
  cases a with
  | exact => rfl
  | inexact o => cases o <;> rfl

theorem log2_rounded_quotient_le {m k r : Nat} (hr : r ≤ m / 2 ^ k + 1) :
    r.log2 ≤ (m.log2 - k) + 1 := by
  by_cases hzero : r = 0
  · simp [hzero]
  · have hquotient : m / 2 ^ k < 2 ^ (m.log2 - k + 1) := by
      apply Nat.div_lt_of_lt_mul
      rw [← pow_add]
      calc
        m < 2 ^ (m.log2 + 1) := Nat.lt_log2_self
        _ ≤ 2 ^ (k + (m.log2 - k + 1)) := Nat.pow_le_pow_right (by decide) (by omega)
    have hbound : r < 2 ^ (m.log2 - k + 2) := by
      have hdouble : 2 ^ (m.log2 - k + 2) = 2 * 2 ^ (m.log2 - k + 1) := by ring
      have hpos : 0 < 2 ^ (m.log2 - k + 1) := by positivity
      omega
    have := (Nat.log2_lt hzero).mpr hbound
    omega

theorem targetExponent_binary64 (n : Int) :
    Format.binary64.targetExponent n = max (n - 53) (-1074) := by
  rfl

theorem roundWithAccuracy_exponent_le {bound : Int} {m : Nat} {e : Int}
    (hexponent : e ≤ bound) (htotal : totalExponent m e ≤ bound + 51) (hbound : -1074 ≤ bound)
    (a : Accuracy) {s t : Sign} {n : Nat} {d : Int} {h : 0 < n}
    (hround : roundWithAccuracy Format.binary64 s m e a = .finite t n d h) :
    d ≤ bound := by
  let k := (max (totalExponent m e - 53) (-1074) - e).toNat
  let em := ExtendedMantissa.ofMantissaAndAccuracy m a >>> k
  have hr : em.roundedMantissa ≤ m / 2 ^ k + 1 := by
    calc
      em.roundedMantissa ≤ em.mantissa + 1 := roundedMantissa_le em
      _ = m / 2 ^ k + 1 := by rw [shiftRight_mantissa, ofMantissaAndAccuracy_mantissa]
  have hlog := log2_rounded_quotient_le hr
  have hd :
      d = e + k +
        (max (totalExponent em.roundedMantissa (e + k) - 53) (-1074) - (e + k)).toNat := by
    unfold roundWithAccuracy at hround
    simp only [shiftToTargetExponent, shiftToExponent, targetExponent_binary64] at hround
    split at hround
    · cases hround
    · injection hround with _ _ hd
      exact hd.symm
  have hk : (k : Int) = max (max (totalExponent m e - 53) (-1074) - e) 0 :=
    Int.toNat_eq_max _
  clear_value em k
  unfold totalExponent at *
  omega

theorem isFinite_unpack_components (s : Sign) {e : BitVec Format.binary64.exponentBits}
    (m : BitVec Format.binary64.mantissaBitsWithoutImplicit) (he : e.toNat < 2047) :
    (UnpackedFloat.unpack Format.binary64
      (packComponents Format.binary64 s e m)).isFinite = true := by
  have hexponent : e ≠ -1#_ := by
    intro hall
    rw [hall] at he
    exact absurd he (by decide)
  unfold UnpackedFloat.unpack
  simp only [unpackExponent_packComponents, unpackMantissa_packComponents, hexponent, if_false]
  split
  · split <;> rfl
  · rfl

theorem isFinite_unpack_pack (s : Sign) {m : Nat} {e : Int} (h : 0 < m) (he : e ≤ 971) :
    (UnpackedFloat.unpack Format.binary64
      (UnpackedFloat.pack Format.binary64 (.finite s m e h))).isFinite = true := by
  have hbiased : (e + Format.binary64.exponentBias + 52).toNat + 1 < 2 ^ 11 := by
    have hbias : Format.binary64.exponentBias = 1023 := rfl
    omega
  unfold UnpackedFloat.pack
  dsimp only
  rw [if_neg (by omega)]
  split
  · apply isFinite_unpack_components
    rw [BitVec.toNat_ofNat]
    exact lt_of_le_of_lt (Nat.mod_le _ _) (by omega)
  · apply isFinite_unpack_components
    decide

/-- What a finite double is when it is unpacked. -/
structure IsDouble (m : Nat) (e : Int) : Prop where
  mantissa_lt : m < 2 ^ 53
  exponent_le : e ≤ 971

theorem isDouble_of_unpack {b : BitVec Format.binary64.numBits} {s : Sign} {m : Nat} {e : Int}
    {h : 0 < m} (hb : UnpackedFloat.unpack Format.binary64 b = .finite s m e h) :
    IsDouble m e := by
  have hbias : Format.binary64.exponentBias = 1023 := rfl
  have hexponent : (unpackExponent b).toNat < 2 ^ 11 := (unpackExponent b).isLt
  have hmantissa : (unpackMantissa b).toNat < 2 ^ 52 := (unpackMantissa b).isLt
  unfold UnpackedFloat.unpack at hb
  dsimp only at hb
  split at hb
  · split at hb <;> cases hb
  next hall =>
    split at hb
    next hzero =>
      have hexponentZero : (unpackExponent b).toNat = 0 := by
        rw [hzero]
        rfl
      split at hb
      · cases hb
      · injection hb with _ hm he
        constructor <;> omega
    next =>
      injection hb with _ hm he
      have hne : (unpackExponent b).toNat ≠ 2047 := by
        intro hmax
        apply hall
        apply BitVec.eq_of_toNat_eq
        rw [hmax]
        rfl
      constructor
      · rw [← hm]
        exact (1#1 ++ unpackMantissa b).isLt
      · omega

theorem sqrtCore_bounds {m : Nat} {e : Int} (hdouble : IsDouble m e) :
    (sqrtCore Format.binary64 m e).2.1 ≤ 485 ∧
      totalExponent (sqrtCore Format.binary64 m e).1 (sqrtCore Format.binary64 m e).2.1 ≤ 513 := by
  obtain ⟨hm, he⟩ := hdouble
  let t := (sqrtCore Format.binary64 m e).2.1
  let shift := (e - 2 * t).toNat
  have ht : t ≤ e / 2 := min_le_left _ _
  have hroot : (sqrtCore Format.binary64 m e).1 = Nat.sqrt (m * 2 ^ shift) := by
    change Nat.sqrt (m <<< shift) = _
    rw [Nat.shiftLeft_eq]
  have hsquare : (Nat.sqrt (m * 2 ^ shift)) ^ 2 ≤ m * 2 ^ shift := Nat.sqrt_le' _
  have hlog : 2 * (Nat.sqrt (m * 2 ^ shift)).log2 < 53 + shift := by
    by_cases hzero : Nat.sqrt (m * 2 ^ shift) = 0
    · rw [hzero]
      simp
    · have hself := Nat.log2_self_le hzero
      have hpow :
          2 ^ (2 * (Nat.sqrt (m * 2 ^ shift)).log2) < 2 ^ (53 + shift) := by
        calc
          2 ^ (2 * (Nat.sqrt (m * 2 ^ shift)).log2) =
              (2 ^ (Nat.sqrt (m * 2 ^ shift)).log2) ^ 2 := by
            rw [← pow_mul, mul_comm]
          _ ≤ (Nat.sqrt (m * 2 ^ shift)) ^ 2 := Nat.pow_le_pow_left hself 2
          _ ≤ m * 2 ^ shift := hsquare
          _ < 2 ^ 53 * 2 ^ shift := by
            exact Nat.mul_lt_mul_of_pos_right hm (by positivity)
          _ = 2 ^ (53 + shift) := (pow_add 2 53 shift).symm
      exact (Nat.pow_lt_pow_iff_right (by decide)).mp hpow
  rw [hroot]
  change t ≤ 485 ∧ totalExponent _ t ≤ 513
  unfold totalExponent
  omega

theorem isFinite_sqrt {u : UnpackedFloat} (hfinite : u.isFinite = true) (hsign : IsUnsigned u)
    {b : BitVec Format.binary64.numBits} (hb : UnpackedFloat.unpack Format.binary64 b = u) :
    (UnpackedFloat.unpack Format.binary64
      (UnpackedFloat.pack Format.binary64
        (UnpackedFloat.sqrt Format.binary64 u))).isFinite = true := by
  cases u with
  | notANumber => cases hfinite
  | infinity s => cases hfinite
  | zero s =>
      subst hsign
      rfl
  | finite s m e h =>
      subst hsign
      obtain ⟨hexponent, htotal⟩ := sqrtCore_bounds (isDouble_of_unpack hb)
      simp only [UnpackedFloat.sqrt]
      obtain hround | ⟨n, d, k, hround⟩ :=
        roundWithAccuracy_zero_or_finite Format.binary64 .positive
          (sqrtCore Format.binary64 m e).1 (sqrtCore Format.binary64 m e).2.1
          (sqrtCore Format.binary64 m e).2.2
      · rw [hround]
        rfl
      · have hd : d ≤ 971 :=
          roundWithAccuracy_exponent_le (by omega) (by omega) (by decide) _ hround
        rw [hround]
        exact isFinite_unpack_pack .positive k hd

/-- The square root of a finite double without a minus sign is finite and not negative. -/
theorem sqrt_finite_not_lt_zero {x : Float} (hfinite : x.isFinite = true)
    (hsign : IsUnsigned x.toModel.unpack) :
    (Float.sqrt x).isFinite = true ∧ Scalar.lt (Float.sqrt x) Zero.zero = false := by
  constructor
  · exact isFinite_sqrt hfinite hsign rfl
  · exact not_lt_zero_of_isUnsigned (isUnsigned_root hsign)

end Double
end Fiducial
