import Mathlib
import Fiducial.Geometry.Rotation

/-!
# Exact arithmetic

The real numbers are scalars.  Every operation is that of the reals, so nothing is rounded, nothing
overflows and every scalar is finite.  A double that is read becomes the number that it stands for,
and a double that is shown lies next to the number.
-/

namespace Fiducial

noncomputable section

/-- The number that a double stands for; zero stands in for what is not finite. -/
def Binary.value (x : Float) : ℝ :=
  match decode x with
  | .finite negative mantissa exponent =>
    (if negative then -1 else 1) * (mantissa : ℝ) * (2 : ℝ) ^ exponent
  | _ => 0

theorem Binary.value_of_decode {x : Float} {mantissa : Nat} {exponent : Int}
    (hdecode : decode x = .finite false mantissa exponent) :
    value x = mantissa * (2 : ℝ) ^ exponent := by
  simp [value, hdecode]

theorem Binary.value_zero : value 0 = 0 := by
  have hdecode : decode 0 = .finite false 0 (-1074) := by decide +kernel
  rw [value_of_decode hdecode, Nat.cast_zero, zero_mul]

theorem Binary.value_one : value 1 = 1 := by
  have hdecode : decode 1 = .finite false (2 ^ 52) (-52) := by decide +kernel
  rw [value_of_decode hdecode]
  norm_num

theorem Binary.value_two : value 2 = 2 := by
  have hdecode : decode 2 = .finite false (2 ^ 52) (-51) := by decide +kernel
  rw [value_of_decode hdecode]
  norm_num

/-- A double next to a number. -/
def Binary.near (x : ℝ) : Float :=
  ofRatio (decide (x < 0)) ⌊|x| * 2 ^ 1100⌋₊ (2 ^ 1100)

instance : Scalar ℝ where
  toZero := inferInstance
  toOne := inferInstance
  toAdd := inferInstance
  toSub := inferInstance
  toMul := inferInstance
  toDiv := inferInstance
  toNeg := inferInstance
  sqrt := Real.sqrt
  sin := Real.sin
  cos := Real.cos
  atan2 y x := Complex.arg ⟨x, y⟩
  lt a b := decide (a < b)
  le a b := decide (a ≤ b)
  isFinite _ := true
  ofFloat := Binary.value
  toFloat := Binary.near
  ratio p q := p / q

instance : Numerics ℝ := .plain fun a n => a ^ n

namespace Scalar

@[simp] theorem isFinite_real (a : ℝ) : isFinite a = true := rfl

@[simp] theorem sqrt_real (a : ℝ) : sqrt a = Real.sqrt a := rfl

@[simp] theorem lt_real (a b : ℝ) : lt a b = decide (a < b) := rfl

@[simp] theorem le_real (a b : ℝ) : le a b = decide (a ≤ b) := rfl

@[simp] theorem power_real (a : ℝ) (n : Nat) : power? a n = some (a ^ n) := rfl

@[simp] theorem ratio_real (p q : Nat) : (ratio p q : ℝ) = p / q := rfl

@[simp] theorem ofNat_real (n : Nat) : (ofNat n : ℝ) = n := by
  rw [ofNat, ratio_real, Nat.cast_one, div_one]

theorem ratio_pos {p q : Nat} (hp : 0 < p) (hq : 0 < q) : (0 : ℝ) < ratio p q :=
  div_pos (Nat.cast_pos.mpr hp) (Nat.cast_pos.mpr hq)

theorem tenth_pos (k : Nat) : (0 : ℝ) < tenth k :=
  ratio_pos one_pos (Nat.pow_pos (by decide))

end Scalar

end

end Fiducial
