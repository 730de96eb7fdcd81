import Mathlib
import Fiducial.Camera.Lens
import Fiducial.Proofs.RotationFormulas

/-!
# Rotation vectors of rotation matrices

The rotation vector of a matrix is read from its skew part, which points along the axis, and from
its trace.  In exact arithmetic a rotation is found again from this vector, unless its skew part is
so short that the vector is replaced.  The argument rests on one fact: the products of the entries
of the skew part are the entries of the symmetric part, up to the diagonal, times one plus the
trace.  The identity, which has no axis, has the quaternion of no rotation and heading zero.
-/

namespace Fiducial

noncomputable section

theorem Vec3.norm_scale {c : ℝ} (hc : 0 ≤ c) (v : Vec3 ℝ) : (v.scale c).norm = c * v.norm := by
  unfold norm
  rw [normSq_scale, Scalar.sqrt_real, Real.sqrt_mul (mul_self_nonneg c), Real.sqrt_mul_self hc]
  rfl

theorem Mat3.mul_transpose_cofactor (m : Mat3 ℝ) :
    m.mul m.cofactor.transpose = Mat3.identity.scale m.det := by
  ext <;>
    simp only [Mat3.mul, transpose, cofactor, apply, identity, scale, det, Vec3.scale, Vec3.dot,
      Vec3.cross] <;>
    ring

/-- The entries of a rotation are their own cofactors. -/
theorem Mat3.IsRotation.cofactor_eq {m : Mat3 ℝ} (hm : m.IsRotation) : m.cofactor = m := by
  have hright : m.mul m.cofactor.transpose = identity := by
    rw [mul_transpose_cofactor, ((isRotation_iff m).mp hm).2]
    ext <;> simp only [identity, scale, Vec3.scale] <;> ring
  have hinverse : m.transpose.toMatrix = m.cofactor.transpose.toMatrix := by
    apply left_inv_eq_right_inv (a := m.toMatrix)
    · rw [← toMatrix_mul, hm.transpose_mul, toMatrix_identity]
    · rw [← toMatrix_mul, hright, toMatrix_identity]
  exact (congrArg Mat3.transpose (toMatrix_injective hinverse)).symm

namespace Rotation

/-! ## The skew part -/

/-- Twice the axis of a rotation times the sine of its angle. -/
def skewPart (m : Mat3 ℝ) : Vec3 ℝ := ⟨m.r2.y - m.r1.z, m.r0.z - m.r2.x, m.r1.x - m.r0.y⟩

def trace (m : Mat3 ℝ) : ℝ := m.r0.x + m.r1.y + m.r2.z

/-- The sine of the angle of a rotation. -/
def sine (m : Mat3 ℝ) : ℝ := (skewPart m).norm * Scalar.ratio 1 2

/-- The cosine of the angle of a rotation. -/
def cosine (m : Mat3 ℝ) : ℝ := (trace m - 1) * Scalar.ratio 1 2

theorem sine_eq (m : Mat3 ℝ) : sine m = (skewPart m).norm / 2 := by
  simp [sine, div_eq_mul_inv]

theorem cosine_eq (m : Mat3 ℝ) : cosine m = (trace m - 1) / 2 := by
  simp [cosine, div_eq_mul_inv]

/-- Twice the symmetric part of a rotation, less twice the cosine on the diagonal. -/
def symmetricPart (m : Mat3 ℝ) : Mat3 ℝ :=
  (m.add m.transpose).sub (Mat3.identity.scale (trace m - 1))

theorem outer_skewPart {m : Mat3 ℝ} (hm : m.IsRotation) :
    Mat3.outer (skewPart m) (skewPart m) = (symmetricPart m).scale (1 + trace m) := by
  have hrows := hm.mul_transpose
  have hcolumns := hm.transpose_mul
  have hcofactors := hm.cofactor_eq
  obtain ⟨⟨a, b, c⟩, ⟨d, e, f⟩, ⟨g, h, i⟩⟩ := m
  simp only [Mat3.mul, Mat3.transpose, Mat3.apply, Mat3.identity, Mat3.cofactor, Vec3.dot,
    Vec3.cross, Mat3.mk.injEq, Vec3.mk.injEq] at hrows hcolumns hcofactors
  obtain ⟨⟨row00, row01, row02⟩, ⟨-, row11, row12⟩, ⟨-, -, row22⟩⟩ := hrows
  obtain ⟨⟨col00, col01, col02⟩, ⟨-, col11, col12⟩, ⟨-, -, col22⟩⟩ := hcolumns
  obtain ⟨⟨cof00, cof01, cof02⟩, ⟨cof10, cof11, cof12⟩, ⟨cof20, cof21, cof22⟩⟩ := hcofactors
  ext <;>
    simp only [symmetricPart, skewPart, trace, Mat3.outer, Mat3.add, Mat3.sub, Mat3.transpose,
      Mat3.identity, Mat3.scale, Vec3.add, Vec3.sub, Vec3.scale]
  case r0.x => linear_combination row11 + row22 - col00 + 2 * cof00
  case r1.y => linear_combination row00 + row22 - col11 + 2 * cof11
  case r2.z => linear_combination row00 + row11 - col22 + 2 * cof22
  case r0.y | r1.x => linear_combination cof01 + cof10 - row01 - col01
  case r0.z | r2.x => linear_combination cof02 + cof20 - row02 - col02
  case r1.z | r2.y => linear_combination cof12 + cof21 - row12 - col12

theorem normSq_skewPart {m : Mat3 ℝ} (hm : m.IsRotation) :
    (skewPart m).normSq = (1 + trace m) * (3 - trace m) := by
  have houter := outer_skewPart hm
  have hx := congrArg (·.r0.x) houter
  have hy := congrArg (·.r1.y) houter
  have hz := congrArg (·.r2.z) houter
  simp only [symmetricPart, trace, Mat3.outer, Mat3.add, Mat3.sub, Mat3.transpose, Mat3.identity,
    Mat3.scale, Vec3.add, Vec3.sub, Vec3.scale] at hx hy hz
  simp only [Vec3.normSq, Vec3.dot, trace]
  linear_combination hx + hy + hz

theorem four_mul_sine_sq {m : Mat3 ℝ} (hm : m.IsRotation) :
    4 * (sine m * sine m) = (1 + trace m) * (3 - trace m) := by
  rw [← normSq_skewPart hm, Vec3.normSq_eq, sine_eq]
  ring

/-! ## The angle -/

/-- The angle of a rotation, at most half a turn. -/
def angle (m : Mat3 ℝ) : ℝ := Complex.arg ⟨cosine m, sine m⟩

/-- The point of the angle lies on the unit circle. -/
theorem norm_point {m : Mat3 ℝ} (hm : m.IsRotation) : ‖(⟨cosine m, sine m⟩ : ℂ)‖ = 1 := by
  have hsquare : cosine m * cosine m + sine m * sine m = 1 := by
    rw [cosine_eq]
    linear_combination four_mul_sine_sq hm / 4
  rw [Complex.norm_def, Complex.normSq_mk, hsquare, Real.sqrt_one]

theorem cos_angle {m : Mat3 ℝ} (hm : m.IsRotation) : Real.cos (angle m) = cosine m := by
  have hpoint := norm_point hm
  have hne : (⟨cosine m, sine m⟩ : ℂ) ≠ 0 := norm_ne_zero_iff.mp (hpoint ▸ one_ne_zero)
  rw [angle, Complex.cos_arg hne, hpoint, div_one]

theorem sin_angle {m : Mat3 ℝ} (hm : m.IsRotation) : Real.sin (angle m) = sine m := by
  rw [angle, Complex.sin_arg, norm_point hm, div_one]

/-- Whether the skew part of a rotation is long enough to be its axis. -/
def IsTurned (m : Mat3 ℝ) : Prop := Scalar.tenth 5 ≤ sine m

theorem IsTurned.sine_pos {m : Mat3 ℝ} (hturned : IsTurned m) : 0 < sine m :=
  lt_of_lt_of_le (Scalar.tenth_pos 5) hturned

theorem sine_le_angle {m : Mat3 ℝ} (hm : m.IsRotation) (hturned : IsTurned m) :
    sine m ≤ angle m := by
  have hpos := hturned.sine_pos
  rw [← sin_angle hm] at hpos ⊢
  have hangle : 0 ≤ angle m := by
    by_contra hneg
    exact absurd hpos (Real.sin_nonpos_of_nonpos_of_neg_pi_le (not_le.mp hneg).le
      (Complex.neg_pi_lt_arg _).le).not_gt
  exact Real.sin_le hangle

/-! ## From the matrix to the vector and back -/

theorem toVector_eq {m : Mat3 ℝ} (hturned : IsTurned m) :
    toVector m = (skewPart m).scale (1 / (2 * sine m) * angle m) := by
  have hhalf : (Scalar.ratio 1 2 : ℝ) = 1 / 2 := by simp
  have hlong : ¬Scalar.lt (sine m) (Scalar.tenth 5) = true := by
    rw [Scalar.lt_real, decide_eq_true_eq]
    exact not_lt.mpr hturned
  have hvector : toVector m = (skewPart m).scale (Scalar.ratio 1 2 *
      (Scalar.atan2 (sine m) (cosine m) / sine m)) := if_neg hlong
  have hangle : Scalar.atan2 (sine m) (cosine m) = angle m := rfl
  rw [hvector, hhalf, hangle]
  congr 1
  ring

/-- A rotation is the rotation about its skew part. -/
theorem about_skewPart {m : Mat3 ℝ} (hm : m.IsRotation) (hpos : 0 < sine m) :
    about ((skewPart m).scale (1 / (2 * sine m))) (cosine m) (sine m) = m := by
  have hne : sine m ≠ 0 := hpos.ne'
  have hsquare := four_mul_sine_sq hm
  have houter := outer_skewPart hm
  obtain ⟨u, hu⟩ : ∃ u, u = 1 / (2 * sine m) := ⟨_, rfl⟩
  have hskew : sine m * u = 1 / 2 := by
    rw [hu]
    field_simp
  have hsymmetric : u * u * (1 - cosine m) * (1 + trace m) = 1 / 2 := by
    have hproduct : (1 - cosine m) * (1 + trace m) = 2 * (sine m * sine m) := by
      rw [cosine_eq]
      linear_combination -hsquare / 2
    calc
      u * u * (1 - cosine m) * (1 + trace m) = u * u * (2 * (sine m * sine m)) := by
        rw [mul_assoc (u * u), hproduct]
      _ = 2 * (sine m * u) * (sine m * u) := by ring
      _ = 1 / 2 := by
        rw [hskew]
        norm_num
  rw [← hu]
  have hentries : (Mat3.outer ((skewPart m).scale u) ((skewPart m).scale u)).scale (1 - cosine m) =
      (symmetricPart m).scale (1 / 2) := by
    have hscaled : (Mat3.outer ((skewPart m).scale u) ((skewPart m).scale u)).scale
        (1 - cosine m) = (Mat3.outer (skewPart m) (skewPart m)).scale (u * u * (1 - cosine m)) := by
      ext <;> simp only [Mat3.outer, Mat3.scale, Vec3.scale] <;> ring
    rw [hscaled, houter, ← hsymmetric]
    ext <;> simp only [Mat3.scale, Vec3.scale] <;> ring
  have hskewed : (Mat3.skew ((skewPart m).scale u)).scale (sine m) =
      (Mat3.skew (skewPart m)).scale (1 / 2) := by
    rw [← hskew]
    ext <;> simp only [Mat3.skew, Mat3.scale, Vec3.scale] <;> ring
  rw [about, hentries, hskewed]
  ext <;>
    simp only [symmetricPart, skewPart, cosine_eq, Mat3.skew, Mat3.add, Mat3.sub, Mat3.transpose,
      Mat3.identity, Mat3.scale, Vec3.add, Vec3.sub, Vec3.scale] <;>
    ring

theorem ofVector_toVector {m : Mat3 ℝ} (hm : m.IsRotation) (hturned : IsTurned m) :
    ofVector (toVector m) = m := by
  have hpos := hturned.sine_pos
  have hle := sine_le_angle hm hturned
  have hangle : 0 < angle m := lt_of_lt_of_le hpos hle
  have hnorm : (toVector m).norm = angle m := by
    have hskew : (skewPart m).norm = 2 * sine m := by
      rw [sine_eq]
      ring
    rw [toVector_eq hturned, Vec3.norm_scale (by positivity), hskew]
    field_simp
  have hdirection : (toVector m).scale (1 / angle m) = (skewPart m).scale (1 / (2 * sine m)) := by
    rw [toVector_eq hturned]
    ext <;> simp only [Vec3.scale] <;> field_simp
  have hlong : ¬Scalar.lt (toVector m).norm precision = true := by
    have hprecision : (precision : ℝ) ≤ Scalar.tenth 5 := by
      norm_num [precision, Scalar.tenth]
    rw [hnorm, Scalar.lt_real, decide_eq_true_eq]
    exact not_lt.mpr (hprecision.trans (le_trans hturned hle))
  calc
    ofVector (toVector m) =
        about ((toVector m).scale (1 / (toVector m).norm)) (Real.cos (toVector m).norm)
          (Real.sin (toVector m).norm) := if_neg hlong
    _ = about ((skewPart m).scale (1 / (2 * sine m))) (cosine m) (sine m) := by
      rw [hnorm, hdirection, cos_angle hm, sin_angle hm]
    _ = m := about_skewPart hm hpos

/-! ## No rotation -/

/-- A rotation is orthogonal without any error, so it stands for itself. -/
theorem nearest_of_isRotation {m : Mat3 ℝ} (hm : m.IsRotation) : nearest m = .ok m := by
  have hdet : m.det = 1 := ((Mat3.isRotation_iff m).mp hm).2
  have hpositive : ¬Scalar.le (Numerics.determinant m) 0 = true := by
    change ¬Scalar.le m.det 0 = true
    rw [hdet]
    exact fun hle => absurd (of_decide_eq_true hle) (by norm_num)
  have hsmall : isSmall (0 : ℝ) = true := by
    have habs : Scalar.abs (0 : ℝ) = 0 := if_neg (by simp)
    rw [isSmall, habs]
    exact decide_eq_true (Scalar.tenth_pos 12).le
  have horthogonal : isOrthogonal m = true := by
    rw [isOrthogonal, hm.mul_transpose]
    simp [Mat3.sub, Vec3.sub, Mat3.identity, Mat3.rows, hsmall]
  rw [nearest, if_neg hpositive, if_pos horthogonal]

theorem nearest_identity : nearest (Mat3.identity : Mat3 ℝ) = .ok Mat3.identity :=
  nearest_of_isRotation Mat3.isRotation_identity

theorem toQuaternion_identity : toQuaternion (Mat3.identity : Mat3 ℝ) = .ok ⟨0, 0, 0, 1⟩ := by
  have hpivoted : Quaternion.pivoted (Mat3.identity : Mat3 ℝ) = ⟨0, 0, 0, 4⟩ := by
    norm_num [Quaternion.pivoted, Mat3.identity]
  have hnorm : (⟨0, 0, 0, 4⟩ : Quaternion ℝ).norm = 4 := by
    rw [Quaternion.norm, Scalar.sqrt_real]
    norm_num
  have hmatrix : Quaternion.ofMatrix (Mat3.identity : Mat3 ℝ) = ⟨0, 0, 0, 1⟩ := by
    simp only [Quaternion.ofMatrix, hpivoted, Quaternion.normalize, hnorm]
    norm_num
  rw [toQuaternion, nearest_identity, Except.map, hmatrix]

theorem toHeading_identity : toHeading (Mat3.identity : Mat3 ℝ) = .ok 0 := by
  have hlevel : ¬Scalar.le (Scalar.sqrt (1 * 1 + 0 * 0 : ℝ)) (Scalar.tenth 7) = true := by
    have hroot : Real.sqrt (1 * 1 + 0 * 0) = 1 := by norm_num
    rw [Scalar.sqrt_real, hroot]
    exact fun hle => absurd (of_decide_eq_true hle) (by norm_num [Scalar.tenth])
  have hheading : heading (Mat3.identity : Mat3 ℝ) = 0 :=
    calc
      heading (Mat3.identity : Mat3 ℝ) = Complex.arg 1 := if_neg hlevel
      _ = 0 := Complex.arg_one
  rw [toHeading, nearest_identity, Except.map, hheading]

end Rotation

end

end Fiducial
