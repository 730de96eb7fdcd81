import Fiducial.Proofs.DoubleRounding
import Fiducial.Proofs.FiniteDoubles

/-!
# Magnitudes of doubles

The size of a double is known well enough by the place of its leading digit.  Sums, differences,
products and quotients of doubles of bounded size are bounded again, so they are finite.  Bounds
from below are kept by squares, by sums without minus signs and by roots, so the length of a vector
is as large as any of its coordinates.
-/

namespace Fiducial
namespace Double

open Float.Model (Format UnpackedFloat totalExponent)
open Float.Model.UnpackedFloat

/-! ## Bounds of unpacked doubles -/

/-- The number is zero, or its leading digit is at the `k`th place before the point or lower. -/
def IsBelow (k : Int) : UnpackedFloat → Prop
  | .zero _ => True
  | .finite _ m e _ => IsCanonical m e ∧ totalExponent m e ≤ k
  | _ => False

/-- The leading digit of the number is above the `k`th place before the point. -/
def IsAbove (k : Int) : UnpackedFloat → Prop
  | .finite _ m e _ => IsCanonical m e ∧ k < totalExponent m e
  | _ => False

theorem IsBelow.mono {j k : Int} {u : UnpackedFloat} (hu : IsBelow j u) (hjk : j ≤ k) :
    IsBelow k u := by
  cases u with
  | zero s => trivial
  | finite s m e h => exact ⟨hu.1, le_trans hu.2 hjk⟩
  | _ => exact hu

theorem exponent_le_of_total {m : Nat} {e k : Int} (hcanonical : IsCanonical m e)
    (htotal : totalExponent m e ≤ k) (hk : k ≤ 1024) : e ≤ 971 := by
  rcases log2_eq_or_of_canonical hcanonical with hlog | hleast
  · unfold totalExponent at htotal
    omega
  · omega

/-- Packing loses nothing of a number in the range of the doubles. -/
theorem IsBelow.unpack_pack {k : Int} {u : UnpackedFloat} (hu : IsBelow k u) (hk : k ≤ 1024) :
    UnpackedFloat.unpack Format.binary64 (UnpackedFloat.pack Format.binary64 u) = u := by
  cases u with
  | zero s => cases s <;> rfl
  | finite s m e h =>
      obtain ⟨hcanonical, htotal⟩ := hu
      exact unpack_pack_finite s h hcanonical (exponent_le_of_total hcanonical htotal hk)
  | infinity s => exact hu.elim
  | notANumber => exact hu.elim

/-- What is packed as a finite double is not changed. -/
theorem IsAbove.unpack_pack {k : Int} {u : UnpackedFloat} (hu : IsAbove k u)
    (hfinite : (UnpackedFloat.unpack Format.binary64
      (UnpackedFloat.pack Format.binary64 u)).isFinite = true) :
    UnpackedFloat.unpack Format.binary64 (UnpackedFloat.pack Format.binary64 u) = u := by
  cases u with
  | finite s m e h =>
      by_cases he : e ≤ 971
      · exact unpack_pack_finite s h hu.1 he
      · rw [unpack_pack_infinite s h (not_le.mp he)] at hfinite
        cases hfinite
  | _ => exact hu.elim

theorem isBelow_round (s : Sign) {m : Nat} {e j k : Int} (he : e ≤ roundedExponent m e)
    (htotal : totalExponent m e ≤ j) (hjk : j < k) (hk : -1072 ≤ k) (a : Accuracy) :
    IsBelow k (roundWithAccuracy Format.binary64 s m e a) := by
  rcases roundWithAccuracy_zero_or_canonical s he a with hzero | ⟨n, d, h, hround, hn, hle⟩
  · rw [hzero]
    trivial
  · rw [hround]
    exact ⟨hn, by omega⟩

theorem isAbove_round (s : Sign) {m : Nat} {e k : Int} (hm : 0 < m) (he : e ≤ roundedExponent m e)
    (htotal : k < totalExponent m e) (hk : -1022 ≤ k) (a : Accuracy) :
    IsAbove k (roundWithAccuracy Format.binary64 s m e a) := by
  obtain ⟨n, d, h, hround, hn, hle⟩ := roundWithAccuracy_of_normal s hm he (by omega) a
  rw [hround]
  exact ⟨hn, by omega⟩

/-! ## Products -/

theorem log2_mul_le {m n : Nat} : (m * n).log2 ≤ m.log2 + n.log2 + 1 := by
  by_cases hzero : m * n = 0
  · rw [hzero, Nat.log2_zero]
    omega
  · have hlt : m * n < 2 ^ (m.log2 + n.log2 + 2) := by
      calc
        m * n < 2 ^ (m.log2 + 1) * 2 ^ (n.log2 + 1) :=
          Nat.mul_lt_mul'' Nat.lt_log2_self Nat.lt_log2_self
        _ = 2 ^ (m.log2 + n.log2 + 2) := by rw [← pow_add]; congr 1; omega
    have := (Nat.log2_lt hzero).mpr hlt
    omega

theorem le_log2_mul {m n : Nat} (hm : 0 < m) (hn : 0 < n) : m.log2 + n.log2 ≤ (m * n).log2 := by
  apply (Nat.le_log2 (Nat.mul_pos hm hn).ne').mpr
  rw [pow_add]
  exact Nat.mul_le_mul (Nat.log2_self_le hm.ne') (Nat.log2_self_le hn.ne')

/-- A product of canonical mantissas has enough digits to be rounded. -/
theorem le_roundedExponent_mul {m n : Nat} {d e : Int} (hm : 0 < m) (hn : 0 < n)
    (hmcanonical : IsCanonical m d) (hncanonical : IsCanonical n e) :
    d + e ≤ roundedExponent (m * n) (d + e) := by
  have hlog := le_log2_mul hm hn
  rcases log2_eq_or_of_canonical hmcanonical with hfull | hleast
  · unfold roundedExponent totalExponent
    omega
  · rcases log2_eq_or_of_canonical hncanonical with hfull' | hleast'
    · unfold roundedExponent totalExponent
      omega
    · unfold roundedExponent
      omega

theorem isBelow_mul {i j k : Int} {u v : UnpackedFloat} (hu : IsBelow i u) (hv : IsBelow j v)
    (hk : i + j < k) (hleast : -1072 ≤ k) :
    IsBelow k (UnpackedFloat.mul Format.binary64 u v) := by
  cases u with
  | zero s =>
      cases v with
      | zero t => trivial
      | finite t n e h => trivial
      | _ => exact hv.elim
  | finite s m d h =>
      cases v with
      | zero t => trivial
      | finite t n e h' =>
          have hlog := @log2_mul_le m n
          have htotal : totalExponent (m * n) (d + e) ≤ i + j := by
            have hm := hu.2
            have hn := hv.2
            unfold totalExponent at *
            omega
          exact isBelow_round _ (le_roundedExponent_mul h h' hu.1 hv.1) htotal hk hleast _
      | _ => exact hv.elim
  | _ => exact hu.elim

theorem isAbove_square {k : Int} {u : UnpackedFloat} (hu : IsAbove k u) (hk : -511 ≤ k) :
    IsAbove (2 * k) (UnpackedFloat.mul Format.binary64 u u) := by
  cases u with
  | finite s m e h =>
      have hlog := le_log2_mul h h
      have htotal : 2 * k < totalExponent (m * m) (e + e) := by
        have hm := hu.2
        unfold totalExponent at *
        omega
      exact isAbove_round _ (Nat.mul_pos h h) (le_roundedExponent_mul h h hu.1 hu.1) htotal
        (by omega) _
  | _ => exact hu.elim

/-! ## Sums and differences -/

theorem log2_mul_two_pow {m : Nat} (hm : 0 < m) (k : Nat) : (m * 2 ^ k).log2 = m.log2 + k := by
  have hpos : 0 < 2 ^ k := Nat.two_pow_pos k
  apply (Nat.log2_eq_iff (Nat.mul_pos hm hpos).ne').mpr
  constructor
  · rw [pow_add]
    exact Nat.mul_le_mul_right _ (Nat.log2_self_le hm.ne')
  · calc
      m * 2 ^ k < 2 ^ (m.log2 + 1) * 2 ^ k := Nat.mul_lt_mul_of_pos_right Nat.lt_log2_self hpos
      _ = 2 ^ (m.log2 + k + 1) := by rw [← pow_add]; congr 1; omega

/-- A number is given more digits before it is rounded, if it needs them. -/
theorem round_eq (s : Sign) {m : Nat} (hm : 0 < m) (e : Int) :
    ∃ n d, 0 < n ∧ totalExponent n d = totalExponent m e ∧ d ≤ roundedExponent n d ∧
      UnpackedFloat.round Format.binary64 s m e =
        roundWithAccuracy Format.binary64 s n d .exact := by
  let k := (e - roundedExponent m e).toNat
  have hlog : (m <<< k).log2 = m.log2 + k := by rw [Nat.shiftLeft_eq, log2_mul_two_pow hm]
  have htotal : totalExponent (m <<< k) (e - k) = totalExponent m e := by
    unfold totalExponent
    omega
  have hpos : 0 < m <<< k := by
    rw [Nat.shiftLeft_eq]
    exact Nat.mul_pos hm (Nat.two_pow_pos k)
  refine ⟨m <<< k, e - k, hpos, htotal, ?_, rfl⟩
  rw [roundedExponent, htotal]
  change e - k ≤ roundedExponent m e
  omega

theorem isBelow_normalize {n e j k : Int} (htotal : totalExponent n.natAbs e ≤ j) (hjk : j < k)
    (hk : -1072 ≤ k) (z : Sign) : IsBelow k (UnpackedFloat.normalize Format.binary64 n e z) := by
  have hround (s : Sign) (hn : 0 < n.natAbs) :
      IsBelow k (UnpackedFloat.round Format.binary64 s n.natAbs e) := by
    obtain ⟨r, d, _, hsame, hd, hround⟩ := round_eq s hn e
    rw [hround]
    exact isBelow_round s hd (by omega) hjk hk _
  unfold UnpackedFloat.normalize
  split
  next hlt =>
    rw [Int.compare_eq_lt] at hlt
    have hnegative : (-n).toNat = n.natAbs := by omega
    rw [hnegative]
    exact hround _ (by omega)
  next => trivial
  next hgt =>
    rw [Int.compare_eq_gt] at hgt
    have hpositive : n.toNat = n.natAbs := by omega
    rw [hpositive]
    exact hround _ (by omega)

/-- A mantissa aligned to a smaller exponent. -/
theorem aligned_lt {m : Nat} {d e k : Int} (hed : e ≤ d) (htotal : totalExponent m d ≤ k) :
    (decreaseExponent m d e).1 < 2 ^ (k - e).toNat := by
  change m <<< (d - e).toNat < _
  rw [Nat.shiftLeft_eq]
  calc
    m * 2 ^ (d - e).toNat < 2 ^ (m.log2 + 1) * 2 ^ (d - e).toNat :=
      Nat.mul_lt_mul_of_pos_right Nat.lt_log2_self (Nat.two_pow_pos _)
    _ = 2 ^ (m.log2 + 1 + (d - e).toNat) := (pow_add _ _ _).symm
    _ ≤ 2 ^ (k - e).toNat := by
      apply Nat.pow_le_pow_right (by decide)
      unfold totalExponent at htotal
      omega

theorem natAbs_apply (s : Sign) (m : Nat) : (s.apply (m : Int)).natAbs = m := by
  cases s <;> simp [Sign.apply]

theorem totalExponent_of_sum {n e k : Int} {m m' : Nat} (hn : n.natAbs ≤ m + m')
    (hm : m < 2 ^ (k - e).toNat) (hm' : m' < 2 ^ (k - e).toNat) (hk : e < k) :
    totalExponent n.natAbs e ≤ k + 1 := by
  by_cases hzero : n.natAbs = 0
  · rw [hzero, totalExponent, Nat.log2_zero]
    omega
  · have hlt : n.natAbs < 2 ^ ((k - e).toNat + 1) := by
      rw [pow_succ]
      omega
    have := (Nat.log2_lt hzero).mpr hlt
    unfold totalExponent
    omega

section Sums

variable {j k : Int} {u v : UnpackedFloat}

/-- Two mantissas of bounded size are aligned and then added, with either sign. -/
theorem isBelow_aligned {m n : Nat} {d e c : Int} (hm : totalExponent m d ≤ j)
    (hn : totalExponent n e ≤ j)
    (hc : c.natAbs ≤ (decreaseExponent m d (min d e)).1 + (decreaseExponent n e (min d e)).1)
    (hk : j + 1 < k) (hleast : -1072 ≤ k) (z : Sign) :
    IsBelow k (UnpackedFloat.normalize Format.binary64 c (min d e) z) := by
  have hmin : min d e < j := by
    unfold totalExponent at hm
    omega
  have htotal := totalExponent_of_sum hc (aligned_lt (min_le_left d e) hm)
    (aligned_lt (min_le_right d e) hn) hmin
  exact isBelow_normalize htotal hk hleast z

theorem isBelow_add (hu : IsBelow j u) (hv : IsBelow j v) (hk : j + 1 < k) (hleast : -1072 ≤ k) :
    IsBelow k (UnpackedFloat.add Format.binary64 u v) := by
  cases u with
  | zero s =>
      cases v with
      | zero t => cases s <;> cases t <;> trivial
      | finite t n e h => exact hv.mono (by omega)
      | _ => exact hv.elim
  | finite s m d h =>
      cases v with
      | zero t => exact hu.mono (by omega)
      | finite t n e h' =>
          refine isBelow_aligned hu.2 hv.2 ?_ hk hleast _
          have hadd := Int.natAbs_add_le (s.apply ((decreaseExponent m d (min d e)).1 : Int))
            (t.apply ((decreaseExponent n e (min d e)).1 : Int))
          rwa [natAbs_apply, natAbs_apply] at hadd
      | _ => exact hv.elim
  | _ => exact hu.elim

theorem isBelow_sub (hu : IsBelow j u) (hv : IsBelow j v) (hk : j + 1 < k) (hleast : -1072 ≤ k) :
    IsBelow k (UnpackedFloat.sub Format.binary64 u v) := by
  cases u with
  | zero s =>
      cases v with
      | zero t => cases s <;> cases t <;> trivial
      | finite t n e h => exact ⟨hv.1, le_trans hv.2 (by omega)⟩
      | _ => exact hv.elim
  | finite s m d h =>
      cases v with
      | zero t => exact hu.mono (by omega)
      | finite t n e h' =>
          refine isBelow_aligned hu.2 hv.2 ?_ hk hleast _
          have hsub := Int.natAbs_sub_le (s.apply ((decreaseExponent m d (min d e)).1 : Int))
            (t.apply ((decreaseExponent n e (min d e)).1 : Int))
          rwa [natAbs_apply, natAbs_apply] at hsub
      | _ => exact hv.elim
  | _ => exact hu.elim

end Sums

/-! ## Quotients -/

theorem log2_div_le {m n : Nat} (hn : 0 < n) : (m / n).log2 ≤ m.log2 - n.log2 := by
  by_cases hzero : m / n = 0
  · rw [hzero, Nat.log2_zero]
    omega
  · have hlt : m / n < 2 ^ (m.log2 - n.log2 + 1) := by
      apply Nat.div_lt_of_lt_mul
      calc
        m < 2 ^ (m.log2 + 1) := Nat.lt_log2_self
        _ ≤ 2 ^ (n.log2 + (m.log2 - n.log2 + 1)) := Nat.pow_le_pow_right (by decide) (by omega)
        _ = 2 ^ n.log2 * 2 ^ (m.log2 - n.log2 + 1) := pow_add _ _ _
        _ ≤ n * 2 ^ (m.log2 - n.log2 + 1) :=
          Nat.mul_le_mul_right _ (Nat.log2_self_le hn.ne')
    have := (Nat.log2_lt hzero).mpr hlt
    omega

theorem le_log2_div {m n k : Nat} (hm : 0 < m) (hn : 0 < n) (hk : n.log2 + 1 + k ≤ m.log2) :
    k ≤ (m / n).log2 := by
  have hpow : 2 ^ k ≤ m / n := by
    apply (Nat.le_div_iff_mul_le hn).mpr
    calc
      2 ^ k * n ≤ 2 ^ k * 2 ^ (n.log2 + 1) := Nat.mul_le_mul_left _ Nat.lt_log2_self.le
      _ = 2 ^ (k + (n.log2 + 1)) := (pow_add _ _ _).symm
      _ ≤ 2 ^ m.log2 := Nat.pow_le_pow_right (by decide) (by omega)
      _ ≤ m := Nat.log2_self_le hm.ne'
  have hpos : 0 < 2 ^ k := Nat.two_pow_pos k
  exact (Nat.le_log2 (by omega)).mpr hpow

/-- A quotient has enough digits to be rounded, and its leading digit is where the difference of
the places says, or one place higher. -/
theorem divCore_spec {m n : Nat} {d e : Int} (hm : 0 < m) (hn : 0 < n)
    (hcanonical : IsCanonical m d) :
    ∃ q t a, divCore Format.binary64 m d n e = (q, t, a) ∧ t ≤ roundedExponent q t ∧
      totalExponent q t ≤ max (totalExponent m d - totalExponent n e + 1) (-1073) := by
  let t := min (d - e) (max (totalExponent m d - totalExponent n e - 53) (-1074))
  let shift := (d - e - t).toNat
  have hcore : divCore Format.binary64 m d n e =
      (m * 2 ^ shift / n, t, accuracyOfFraction (m * 2 ^ shift % n) n) := by
    rw [← Nat.shiftLeft_eq]
    rfl
  have hpos : 0 < m * 2 ^ shift := Nat.mul_pos hm (Nat.two_pow_pos _)
  have hlog := log2_mul_two_pow hm shift
  have hhigh : (m * 2 ^ shift / n).log2 ≤ m.log2 + shift - n.log2 := hlog ▸ log2_div_le hn
  have hmlog := log2_le_of_canonical hcanonical
  have ht : t = min (d - e) (max (totalExponent m d - totalExponent n e - 53) (-1074)) := rfl
  have hshift : (shift : Int) = d - e - t := Int.toNat_of_nonneg (by omega)
  clear_value t shift
  unfold totalExponent at ht
  have hlow (hnormal : -1074 < t) : 52 ≤ (m * 2 ^ shift / n).log2 := by
    apply le_log2_div hpos hn
    omega
  refine ⟨_, _, _, hcore, ?_, ?_⟩
  · unfold roundedExponent totalExponent
    by_cases hnormal : -1074 < t
    · have := hlow hnormal
      omega
    · omega
  · unfold totalExponent
    omega

theorem isBelow_div {i j k : Int} {u v : UnpackedFloat} (hu : IsBelow j u) (hv : IsAbove i v)
    (hk : j - i < k) (hleast : -1072 ≤ k) :
    IsBelow k (UnpackedFloat.div Format.binary64 u v) := by
  cases v with
  | finite t n e h' =>
      cases u with
      | zero s => trivial
      | finite s m d h =>
          obtain ⟨q, c, a, hcore, hc, htotal⟩ := divCore_spec (e := e) h h' hu.1
          simp only [UnpackedFloat.div, hcore]
          have hm := hu.2
          have hn := hv.2
          exact isBelow_round _ hc (j := k - 1) (by omega) (by omega) hleast a
      | _ => exact hu.elim
  | _ => exact hv.elim

/-! ## Lower bounds -/

theorem log2_le_log2 {m n : Nat} (hm : 0 < m) (hmn : m ≤ n) : m.log2 ≤ n.log2 :=
  (Nat.le_log2 (by omega)).mpr (le_trans (Nat.log2_self_le hm.ne') hmn)

theorem isAbove_normalize {n : Nat} {e k : Int} (hn : 0 < n) (htotal : k < totalExponent n e)
    (hk : -1022 ≤ k) (z : Sign) : IsAbove k (UnpackedFloat.normalize Format.binary64 n e z) := by
  have hgt : compare (n : Int) 0 = .gt := Int.compare_eq_gt.mpr (by omega)
  obtain ⟨r, d, hr, hsame, hd, hround⟩ := round_eq .positive hn e
  unfold UnpackedFloat.normalize
  rw [hgt]
  dsimp only
  rw [Int.toNat_natCast, hround]
  exact isAbove_round _ hr hd (by omega) hk _

theorem add_positive {m n : Nat} {d e : Int} (h : 0 < m) (h' : 0 < n) :
    UnpackedFloat.add Format.binary64 (.finite .positive m d h) (.finite .positive n e h') =
      UnpackedFloat.normalize Format.binary64
        ((m * 2 ^ (d - min d e).toNat + n * 2 ^ (e - min d e).toNat : Nat) : Int) (min d e)
        .positive := by
  simp only [UnpackedFloat.add, decreaseExponent, Sign.apply, Nat.shiftLeft_eq]
  push_cast
  rfl

section Sums

variable {k : Int} {u v : UnpackedFloat}

/-- A sum without minus signs is as large as its first term. -/
theorem isAbove_add (hu : IsAbove k u) (husign : IsUnsigned u) (hvsign : IsUnsigned v)
    (hv : v.isFinite = true) (hk : -1022 ≤ k) :
    IsAbove k (UnpackedFloat.add Format.binary64 u v) := by
  cases u with
  | finite s m d h =>
      subst husign
      cases v with
      | zero t => exact hu
      | finite t n e h' =>
          subst hvsign
          rw [add_positive]
          have hpos : 0 < m * 2 ^ (d - min d e).toNat := Nat.mul_pos h (Nat.two_pow_pos _)
          have hlog := log2_mul_two_pow h (d - min d e).toNat
          have hsum := log2_le_log2 hpos (Nat.le_add_right _ (n * 2 ^ (e - min d e).toNat))
          have hm := hu.2
          refine isAbove_normalize (by omega) ?_ hk _
          unfold totalExponent at *
          omega
      | _ => cases hv
  | _ => exact hu.elim

theorem add_comm_of_unsigned (husign : IsUnsigned u) (hu : u.isFinite = true)
    (hvsign : IsUnsigned v) (hv : v.isFinite = true) :
    UnpackedFloat.add Format.binary64 u v = UnpackedFloat.add Format.binary64 v u := by
  cases u with
  | zero s =>
      cases v with
      | zero t =>
          subst husign hvsign
          rfl
      | finite t n e h => rfl
      | _ => cases hv
  | finite s m d h =>
      cases v with
      | zero t => rfl
      | finite t n e h' =>
          subst husign hvsign
          rw [add_positive, add_positive, min_comm e d, Nat.add_comm]
      | _ => cases hv
  | _ => cases hu

/-- The leading digit of a root stands half as far from the point, and the root has enough digits to
be rounded. -/
theorem sqrtCore_spec {m : Nat} {e : Int} (hm : 0 < m) :
    ∃ r t a, sqrtCore Format.binary64 m e = (r, t, a) ∧ 0 < r ∧ t ≤ roundedExponent r t ∧
      (totalExponent m e + 1) / 2 ≤ totalExponent r t := by
  let t := min (e / 2) (max ((totalExponent m e + 1) / 2 - 53) (-1074))
  let shift := (e - 2 * t).toNat
  let r := Nat.sqrt (m <<< shift)
  let a := (sqrtCore Format.binary64 m e).2.2
  have hcore : sqrtCore Format.binary64 m e = (r, t, a) := rfl
  have hsquare : 2 ^ ((m.log2 + shift) / 2) ≤ r := by
    apply Nat.le_sqrt.mpr
    rw [Nat.shiftLeft_eq]
    calc
      2 ^ ((m.log2 + shift) / 2) * 2 ^ ((m.log2 + shift) / 2) =
          2 ^ ((m.log2 + shift) / 2 + (m.log2 + shift) / 2) := (pow_add _ _ _).symm
      _ ≤ 2 ^ (m.log2 + shift) := Nat.pow_le_pow_right (by decide) (by omega)
      _ = 2 ^ m.log2 * 2 ^ shift := pow_add _ _ _
      _ ≤ m * 2 ^ shift := Nat.mul_le_mul_right _ (Nat.log2_self_le hm.ne')
  have hpos : 0 < r := lt_of_lt_of_le (Nat.two_pow_pos _) hsquare
  have hlog : (m.log2 + shift) / 2 ≤ r.log2 := (Nat.le_log2 hpos.ne').mpr hsquare
  have ht : t = min (e / 2) (max ((totalExponent m e + 1) / 2 - 53) (-1074)) := rfl
  have hshift : (shift : Int) = e - 2 * t := Int.toNat_of_nonneg (by omega)
  clear_value t shift r a
  unfold totalExponent at ht
  refine ⟨r, t, a, hcore, hpos, ?_, ?_⟩
  · unfold roundedExponent totalExponent
    omega
  · unfold totalExponent
    omega

/-- The root of a square is as large as what was squared. -/
theorem isAbove_sqrt (hu : IsAbove (2 * k) u) (husign : IsUnsigned u) (hk : -1022 ≤ k) :
    IsAbove k (UnpackedFloat.sqrt Format.binary64 u) := by
  cases u with
  | finite s m e h =>
      subst husign
      obtain ⟨r, t, a, hcore, hpos, hrounded, htotal⟩ := sqrtCore_spec (e := e) h
      have hm := hu.2
      simp only [UnpackedFloat.sqrt, hcore]
      exact isAbove_round _ hpos hrounded (by omega) hk a
  | _ => exact hu.elim

end Sums

/-! ## Bounds of doubles -/

/-- The double is finite, with its leading digit at the `k`th place before the point or lower. -/
def Below (k : Int) (x : Float) : Prop := IsBelow k x.toModel.unpack

/-- The double is finite, with its leading digit above the `k`th place before the point. -/
def Above (k : Int) (x : Float) : Prop := IsAbove k x.toModel.unpack

section Bounds

variable {i j k : Int} {x y : Float}

theorem Below.mono (hx : Below j x) (hjk : j ≤ k) : Below k x := IsBelow.mono hx hjk

theorem Below.isFinite (hx : Below k x) : x.isFinite = true := by
  change x.toModel.unpack.isFinite = true
  unfold Below at hx
  cases hunpack : x.toModel.unpack with
  | zero s => rfl
  | finite s m e h => rfl
  | _ =>
      rw [hunpack] at hx
      exact hx.elim

theorem isBelow_unpack_pack {u : UnpackedFloat} (hu : IsBelow k u) (hmost : k ≤ 1024) :
    IsBelow k (UnpackedFloat.unpack Format.binary64 (UnpackedFloat.pack Format.binary64 u)) := by
  rw [hu.unpack_pack hmost]
  exact hu

theorem Below.mul (hx : Below i x) (hy : Below j y) (hk : i + j < k) (hleast : -1072 ≤ k)
    (hmost : k ≤ 1024) : Below k (x * y) :=
  isBelow_unpack_pack (isBelow_mul hx hy hk hleast) hmost

theorem Below.add (hx : Below j x) (hy : Below j y) (hk : j + 1 < k) (hleast : -1072 ≤ k)
    (hmost : k ≤ 1024) : Below k (x + y) :=
  isBelow_unpack_pack (isBelow_add hx hy hk hleast) hmost

theorem Below.sub (hx : Below j x) (hy : Below j y) (hk : j + 1 < k) (hleast : -1072 ≤ k)
    (hmost : k ≤ 1024) : Below k (x - y) :=
  isBelow_unpack_pack (isBelow_sub hx hy hk hleast) hmost

theorem Below.div (hx : Below j x) (hy : Above i y) (hk : j - i < k) (hleast : -1072 ≤ k)
    (hmost : k ≤ 1024) : Below k (x / y) :=
  isBelow_unpack_pack (isBelow_div hx hy hk hleast) hmost

theorem isBelow_neg {u : UnpackedFloat} (hu : IsBelow k u) : IsBelow k u.neg := by
  cases u with
  | zero s => trivial
  | finite s m e h => exact hu
  | _ => exact hu.elim

theorem Below.neg (hx : Below k x) (hmost : k ≤ 1024) : Below k (-x) :=
  isBelow_unpack_pack (isBelow_neg hx) hmost

/-- A finite double is small, or its leading digit has a place. -/
theorem exists_place (hx : x.isFinite = true) (b : Int) :
    Below b x ∨ ∃ k, b < k ∧ k ≤ 1024 ∧ Below k x ∧ Above (k - 1) x := by
  have hmodel : x.toModel.unpack.isFinite = true := hx
  unfold Below Above
  cases hunpack : x.toModel.unpack with
  | zero s => exact .inl trivial
  | finite s m e h =>
      have hcanonical := isCanonical_of_unpack hunpack
      by_cases hsmall : totalExponent m e ≤ b
      · exact .inl ⟨hcanonical, hsmall⟩
      · have hlog := log2_le_of_canonical hcanonical
        have he := (isDouble_of_unpack hunpack).exponent_le
        refine .inr ⟨totalExponent m e, not_le.mp hsmall, ?_, ⟨hcanonical, le_rfl⟩, hcanonical, ?_⟩
        · unfold totalExponent
          omega
        · omega
  | _ =>
      rw [hunpack] at hmodel
      cases hmodel

/-! ### Squares, sums and roots -/

theorem add_not_finite (spec : Format) {u : UnpackedFloat} (hu : u.isFinite = false)
    (v : UnpackedFloat) : (UnpackedFloat.add spec u v).isFinite = false ∧
      (UnpackedFloat.add spec v u).isFinite = false := by
  cases u with
  | notANumber => cases v <;> exact ⟨rfl, rfl⟩
  | infinity s =>
      cases v with
      | infinity t => cases s <;> cases t <;> exact ⟨rfl, rfl⟩
      | _ => exact ⟨rfl, rfl⟩
  | zero s => cases hu
  | finite s m e h => cases hu

/-- A sum is finite only if both terms are. -/
theorem isFinite_of_add (hsum : (x + y).isFinite = true) :
    x.isFinite = true ∧ y.isFinite = true := by
  have hfinite : (UnpackedFloat.add Format.binary64 x.toModel.unpack
      y.toModel.unpack).isFinite = true := isFinite_of_unpack_pack hsum
  constructor
  · by_contra hx
    have hmodel : x.toModel.unpack.isFinite = false := Bool.eq_false_of_not_eq_true hx
    rw [(add_not_finite Format.binary64 hmodel _).1] at hfinite
    cases hfinite
  · by_contra hy
    have hmodel : y.toModel.unpack.isFinite = false := Bool.eq_false_of_not_eq_true hy
    rw [(add_not_finite Format.binary64 hmodel _).2] at hfinite
    cases hfinite

/-- A root is finite only if what it is taken of is. -/
theorem isFinite_of_sqrt (hroot : (Float.sqrt x).isFinite = true) : x.isFinite = true := by
  have hfinite : (UnpackedFloat.sqrt Format.binary64 x.toModel.unpack).isFinite = true :=
    isFinite_of_unpack_pack hroot
  change x.toModel.unpack.isFinite = true
  cases hunpack : x.toModel.unpack with
  | infinity s =>
      rw [hunpack] at hfinite
      cases s <;> cases hfinite
  | notANumber =>
      rw [hunpack] at hfinite
      cases hfinite
  | _ => rfl

theorem isAbove_unpack_pack {u : UnpackedFloat} (hu : IsAbove k u)
    (hfinite : (UnpackedFloat.unpack Format.binary64
      (UnpackedFloat.pack Format.binary64 u)).isFinite = true) :
    IsAbove k (UnpackedFloat.unpack Format.binary64 (UnpackedFloat.pack Format.binary64 u)) := by
  rw [hu.unpack_pack hfinite]
  exact hu

theorem Above.square (hx : Above k x) (hk : -511 ≤ k) (hfinite : (x * x).isFinite = true) :
    Above (2 * k) (x * x) :=
  isAbove_unpack_pack (isAbove_square hx hk) hfinite

theorem Above.add (hx : Above k x) (hxsign : IsUnsigned x.toModel.unpack)
    (hysign : IsUnsigned y.toModel.unpack) (hk : -1022 ≤ k) (hfinite : (x + y).isFinite = true) :
    Above k (x + y) :=
  isAbove_unpack_pack (isAbove_add hx hxsign hysign (isFinite_of_add hfinite).2 hk) hfinite

theorem Above.add_left (hy : Above k y) (hxsign : IsUnsigned x.toModel.unpack)
    (hysign : IsUnsigned y.toModel.unpack) (hk : -1022 ≤ k) (hfinite : (x + y).isFinite = true) :
    Above k (x + y) := by
  obtain ⟨hx, hy'⟩ := isFinite_of_add hfinite
  have hcomm : x + y = y + x :=
    congrArg (fun u => (⟨Float.Model.pack u⟩ : Float))
      (add_comm_of_unsigned hxsign hx hysign hy')
  rw [hcomm] at hfinite ⊢
  exact hy.add hysign hxsign hk hfinite

theorem Above.sqrt (hx : Above (2 * k) x) (hsign : IsUnsigned x.toModel.unpack) (hk : -1022 ≤ k)
    (hfinite : (Float.sqrt x).isFinite = true) : Above k (Float.sqrt x) :=
  isAbove_unpack_pack (isAbove_sqrt hx hsign hk) hfinite

end Bounds

/-! ## Comparisons -/

section Comparisons

variable {k : Int} {x y : Float}

/-- Canonical numbers are compared by their exponents first. -/
theorem totalExponent_le_of_le {m n : Nat} {d e : Int} (hpos : 0 < m) (hm : IsCanonical m d)
    (hn : IsCanonical n e) (hle : d < e ∨ d = e ∧ m ≤ n) :
    totalExponent m d ≤ totalExponent n e := by
  have hmlog := log2_le_of_canonical hm
  have hleast := hm.exponent_ge
  rcases hle with hlt | ⟨hsame, hmn⟩
  · rcases log2_eq_or_of_canonical hn with hnlog | hnleast
    · unfold totalExponent
      omega
    · omega
  · have hlog := log2_le_log2 hpos hmn
    unfold totalExponent
    omega

theorem above_of_not_lt (hx : x.isFinite = true) (hsign : IsUnsigned x.toModel.unpack)
    {m : Nat} {e : Int} {h : 0 < m} (hy : y.toModel.unpack = .finite .positive m e h)
    (hnot : Scalar.lt x y = false) (hk : k < totalExponent m e) : Above k x := by
  have hmodel : x.toModel.unpack.isFinite = true := hx
  have hcanonical := isCanonical_of_unpack hy
  rw [lt_unpack, hy] at hnot
  unfold Above
  cases hunpack : x.toModel.unpack with
  | zero s =>
      rw [hunpack] at hnot
      cases hnot
  | finite s n d h' =>
      rw [hunpack] at hsign hnot
      subst hsign
      have hcanonical' := isCanonical_of_unpack hunpack
      have hle : e < d ∨ e = d ∧ m ≤ n := by
        simp only [UnpackedFloat.lt, UnpackedFloat.compare] at hnot
        cases hexponent : compare d e with
        | lt => simp [hexponent] at hnot
        | gt => exact .inl (Int.compare_eq_gt.mp hexponent)
        | eq =>
            refine .inr ⟨(Int.compare_eq_eq.mp hexponent).symm, ?_⟩
            simpa [hexponent, Nat.compare_eq_lt] using hnot
      exact ⟨hcanonical', lt_of_lt_of_le hk (totalExponent_le_of_le h hcanonical hcanonical' hle)⟩
  | _ =>
      rw [hunpack] at hmodel
      cases hmodel

/-- A root that is not zero stays far above the least doubles. -/
theorem above_sqrt (hsign : IsUnsigned x.toModel.unpack) (hroot : (Float.sqrt x).isFinite = true)
    (hpositive : ¬ Scalar.le (Float.sqrt x) 0 = true) : Above (-538) (Float.sqrt x) := by
  have hx : x.toModel.unpack.isFinite = true := isFinite_of_sqrt hroot
  refine Above.sqrt ?_ hsign (by decide) hroot
  unfold Above
  cases hunpack : x.toModel.unpack with
  | zero s =>
      have hzero : (Float.sqrt x).toModel.unpack = .zero s := by
        change UnpackedFloat.unpack Format.binary64 (UnpackedFloat.pack Format.binary64
          (UnpackedFloat.sqrt Format.binary64 x.toModel.unpack)) = _
        rw [hunpack]
        cases s <;> rfl
      have hle : Float.sqrt x ≤ 0 := by
        rw [le_unpack, hzero]
        cases s <;> rfl
      exact absurd (decide_eq_true hle) hpositive
  | finite s m e h =>
      have hcanonical := isCanonical_of_unpack hunpack
      have hleast := hcanonical.exponent_ge
      refine ⟨hcanonical, ?_⟩
      unfold totalExponent
      omega
  | _ =>
      rw [hunpack] at hx
      cases hx

theorem below_of_abs_le {m : Nat} {e : Int} {h : 0 < m}
    (hy : y.toModel.unpack = .finite .positive m e h) (hle : x.abs ≤ y)
    (hk : totalExponent m e ≤ k) : Below k x := by
  have hcanonical := isCanonical_of_unpack hy
  have habs : x.abs.toModel.unpack = UnpackedFloat.unpack Format.binary64
      (UnpackedFloat.pack Format.binary64 x.toModel.unpack.abs) := rfl
  rw [le_unpack, hy, habs] at hle
  unfold Below
  cases hunpack : x.toModel.unpack with
  | notANumber =>
      rw [hunpack] at hle
      cases hle
  | infinity s =>
      rw [hunpack] at hle
      cases s <;> cases hle
  | zero s => trivial
  | finite s n d h' =>
      have hcanonical' := isCanonical_of_unpack hunpack
      rw [hunpack, UnpackedFloat.abs,
        unpack_pack_finite .positive h' hcanonical' (isDouble_of_unpack hunpack).exponent_le] at hle
      have hplace : d < e ∨ d = e ∧ n ≤ m := by
        simp only [UnpackedFloat.le, UnpackedFloat.compare] at hle
        cases hexponent : compare d e with
        | lt => exact .inl (Int.compare_eq_lt.mp hexponent)
        | gt => simp [hexponent, Ordering.isLE] at hle
        | eq =>
            refine .inr ⟨Int.compare_eq_eq.mp hexponent, ?_⟩
            simpa [hexponent, Nat.isLE_compare] using hle
      exact ⟨hcanonical', le_trans (totalExponent_le_of_le h' hcanonical' hcanonical hplace) hk⟩

end Comparisons

end Double
end Fiducial
