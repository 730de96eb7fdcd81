import Mathlib
import Fiducial.Geometry.Rotation
import Fiducial.Proofs.RigidTransforms

/-!
# Rotations that are read

In exact arithmetic every rotation vector gives a rotation matrix, a short one the identity, and so
does every quaternion that is long enough to be normalised.  Both formulas are polynomials, in the
axis together with the cosine and the sine of the angle, or in the entries of the quaternion.  That
the matrix is orthogonal with determinant one follows from the unit length of the axis or of the
quaternion.
-/

namespace Fiducial

noncomputable section

attribute [ext] Quaternion

/-! ## Rotation vectors -/

theorem Vec3.normSq_eq (v : Vec3 ℝ) : v.normSq = v.norm * v.norm := by
  have hnonneg : 0 ≤ v.normSq :=
    add_nonneg (add_nonneg (mul_self_nonneg v.x) (mul_self_nonneg v.y)) (mul_self_nonneg v.z)
  exact (Real.mul_self_sqrt hnonneg).symm

theorem Vec3.normSq_scale (c : ℝ) (v : Vec3 ℝ) : (v.scale c).normSq = c * c * v.normSq := by
  simp only [normSq, scale, dot]
  ring

theorem Vec3.norm_zero : (zero : Vec3 ℝ).norm = 0 := by
  simp [norm, normSq, dot, zero]

/-- A vector divided by its length is a direction. -/
theorem Vec3.normSq_direction {v : Vec3 ℝ} (hlong : v.norm ≠ 0) :
    (v.scale (1 / v.norm)).normSq = 1 := by
  rw [normSq_scale, normSq_eq]
  field_simp

namespace Rotation

/-- The rotation about the axis `k` by the angle with cosine `c` and sine `s`. -/
def about (k : Vec3 ℝ) (c s : ℝ) : Mat3 ℝ :=
  ((Mat3.identity.scale c).add ((Mat3.outer k k).scale (1 - c))).add ((Mat3.skew k).scale s)

section Axis

variable {k : Vec3 ℝ} {c s : ℝ}

theorem about_mul_transpose (haxis : k.x * k.x + k.y * k.y + k.z * k.z = 1)
    (hcircle : s ^ 2 + c ^ 2 = 1) :
    (about k c s).mul (about k c s).transpose = Mat3.identity := by
  ext <;>
    simp only [about, Mat3.mul, Mat3.transpose, Mat3.apply, Mat3.add, Mat3.scale, Mat3.identity,
      Mat3.outer, Mat3.skew, Vec3.add, Vec3.scale, Vec3.dot]
  · linear_combination ((1 - c) ^ 2 * k.x * k.x + s ^ 2) * haxis + (1 - k.x * k.x) * hcircle
  · linear_combination (1 - c) ^ 2 * k.x * k.y * haxis - k.x * k.y * hcircle
  · linear_combination (1 - c) ^ 2 * k.x * k.z * haxis - k.x * k.z * hcircle
  · linear_combination (1 - c) ^ 2 * k.y * k.x * haxis - k.y * k.x * hcircle
  · linear_combination ((1 - c) ^ 2 * k.y * k.y + s ^ 2) * haxis + (1 - k.y * k.y) * hcircle
  · linear_combination (1 - c) ^ 2 * k.y * k.z * haxis - k.y * k.z * hcircle
  · linear_combination (1 - c) ^ 2 * k.z * k.x * haxis - k.z * k.x * hcircle
  · linear_combination (1 - c) ^ 2 * k.z * k.y * haxis - k.z * k.y * hcircle
  · linear_combination ((1 - c) ^ 2 * k.z * k.z + s ^ 2) * haxis + (1 - k.z * k.z) * hcircle

theorem det_about (haxis : k.x * k.x + k.y * k.y + k.z * k.z = 1) (hcircle : s ^ 2 + c ^ 2 = 1) :
    (about k c s).det = 1 := by
  simp only [about, Mat3.det, Mat3.add, Mat3.scale, Mat3.identity, Mat3.outer, Mat3.skew, Vec3.add,
    Vec3.scale, Vec3.dot, Vec3.cross]
  -- the determinant is `(c + (1 - c) * n) * (c ^ 2 + s ^ 2 * n)`, with the squared length `n` of
  -- the axis
  linear_combination
    ((1 - c) * (c ^ 2 + s ^ 2 * (k.x * k.x + k.y * k.y + k.z * k.z)) + s ^ 2) * haxis + hcircle

theorem isRotation_about (haxis : k.normSq = 1) (hcircle : s ^ 2 + c ^ 2 = 1) :
    (about k c s).IsRotation :=
  (Mat3.isRotation_iff _).mpr ⟨about_mul_transpose haxis hcircle, det_about haxis hcircle⟩

end Axis

def direction (r : Vec3 ℝ) : Vec3 ℝ := r.scale (1 / r.norm)

/-- Rodrigues' formula for the rotation about the direction of `r` by its length. -/
def rodrigues (r : Vec3 ℝ) : Mat3 ℝ := about (direction r) (Real.cos r.norm) (Real.sin r.norm)

theorem isRotation_rodrigues {r : Vec3 ℝ} (hlong : r.norm ≠ 0) : (rodrigues r).IsRotation :=
  isRotation_about (Vec3.normSq_direction hlong) (Real.sin_sq_add_cos_sq r.norm)

theorem precision_pos : (0 : ℝ) < precision := Scalar.ratio_pos one_pos (Nat.pow_pos two_pos)

theorem isRotation_ofVector (r : Vec3 ℝ) : (ofVector r).IsRotation := by
  by_cases hshort : r.norm < precision
  · have hzero : ofVector r = Mat3.identity := if_pos (decide_eq_true hshort)
    rw [hzero]
    exact Mat3.isRotation_identity
  · have hformula : ofVector r = rodrigues r := if_neg (by simpa using hshort)
    rw [hformula]
    exact isRotation_rodrigues (lt_of_lt_of_le precision_pos (not_lt.mp hshort)).ne'

theorem ofVector_zero : ofVector (Vec3.zero : Vec3 ℝ) = Mat3.identity := by
  apply if_pos
  rw [Vec3.norm_zero]
  exact decide_eq_true precision_pos

end Rotation

/-! ## Quaternions -/

namespace Quaternion

theorem isRotation_unitMatrix {q : Quaternion ℝ}
    (hunit : q.x * q.x + q.y * q.y + q.z * q.z + q.w * q.w = 1) : q.unitMatrix.IsRotation := by
  let n := q.x * q.x + q.y * q.y + q.z * q.z + q.w * q.w
  apply (Mat3.isRotation_iff _).mpr
  constructor
  · -- for any quaternion the product is the identity times the square of `n`
    ext <;>
      simp only [unitMatrix, Mat3.mul, Mat3.transpose, Mat3.apply, Mat3.identity, Vec3.dot,
        Scalar.ofNat_real, Nat.cast_ofNat]
    case r0.x => linear_combination (n + 1) * hunit
    case r1.y => linear_combination (n + 1) * hunit
    case r2.z => linear_combination (n + 1) * hunit
    all_goals ring
  · -- and the determinant is the third power of `n`
    simp only [unitMatrix, Mat3.det, Vec3.dot, Vec3.cross, Scalar.ofNat_real, Nat.cast_ofNat]
    linear_combination (n ^ 2 + n + 1) * hunit

theorem norm_mul_norm (q : Quaternion ℝ) :
    q.norm * q.norm = q.x * q.x + q.y * q.y + q.z * q.z + q.w * q.w :=
  Real.mul_self_sqrt (add_nonneg (add_nonneg (add_nonneg (mul_self_nonneg q.x)
    (mul_self_nonneg q.y)) (mul_self_nonneg q.z)) (mul_self_nonneg q.w))

theorem norm_normalize {q : Quaternion ℝ} (hlong : q.norm ≠ 0) : q.normalize.norm = 1 := by
  apply Real.sqrt_eq_one.mpr
  simp only [normalize]
  have hnorm := q.norm_mul_norm
  field_simp
  linear_combination -hnorm

theorem isRotation_normalize {q : Quaternion ℝ} (hlong : q.norm ≠ 0) :
    q.normalize.unitMatrix.IsRotation := by
  apply isRotation_unitMatrix
  rw [← norm_mul_norm, norm_normalize hlong, mul_one]

theorem normalize_of_unit {q : Quaternion ℝ} (hunit : q.norm = 1) : q.normalize = q := by
  ext <;> simp only [normalize, hunit, div_one]

theorem direction_of_unit {q : Quaternion ℝ} (hunit : q.norm = 1) :
    q.direction? = some q.unitMatrix := by
  have hpositive : ¬ Scalar.le q.norm 0 = true := by
    rw [hunit]
    simp
  rw [direction?, if_neg hpositive, normalize_of_unit hunit]

theorem toMatrix_of_short {q : Quaternion ℝ} (hshort : q.norm < Scalar.tenth 12) :
    q.toMatrix? = none := by
  apply if_pos
  simpa using hshort

theorem norm_ne_zero_of_long {q : Quaternion ℝ} (hlong : Scalar.tenth 12 ≤ q.norm) :
    q.norm ≠ 0 :=
  (lt_of_lt_of_le (Scalar.tenth_pos 12) hlong).ne'

theorem toMatrix_of_long {q : Quaternion ℝ} (hlong : Scalar.tenth 12 ≤ q.norm) :
    q.toMatrix? = some q.normalize.unitMatrix := by
  have hkept : ¬(!Scalar.isFinite q.norm || Scalar.lt q.norm (Scalar.tenth 12)) = true := by
    simpa using hlong
  rw [toMatrix?, if_neg hkept, direction_of_unit (norm_normalize (norm_ne_zero_of_long hlong))]

/-- Whatever quaternion gives a matrix gives a rotation. -/
theorem isRotation_toMatrix {q : Quaternion ℝ} {m : Mat3 ℝ} (hmatrix : q.toMatrix? = some m) :
    m.IsRotation := by
  rcases lt_or_ge q.norm (Scalar.tenth 12) with hshort | hlong
  · rw [toMatrix_of_short hshort] at hmatrix
    cases hmatrix
  · rw [toMatrix_of_long hlong] at hmatrix
    cases hmatrix
    exact isRotation_normalize (norm_ne_zero_of_long hlong)

theorem toMatrix_real {w : ℝ} (hw : 1 ≤ w) :
    (⟨0, 0, 0, w⟩ : Quaternion ℝ).toMatrix? = some Mat3.identity := by
  have hnorm : (⟨0, 0, 0, w⟩ : Quaternion ℝ).norm = w := by
    simp [norm, Real.sqrt_mul_self (le_trans zero_le_one hw)]
  have hlong : Scalar.tenth 12 ≤ (⟨0, 0, 0, w⟩ : Quaternion ℝ).norm := by
    rw [hnorm, Scalar.tenth, Scalar.ratio_real]
    exact le_trans (by norm_num) hw
  have hunit : w / w = 1 := div_self (by linarith)
  rw [toMatrix_of_long hlong]
  simp [normalize, unitMatrix, hnorm, hunit, Mat3.identity]

end Quaternion

end

end Fiducial
