import Fiducial.Proofs.RotationVectors

/-!
# Unit quaternions and rotations

A quaternion and its multiples stand for one rotation, so of the quaternions of unit length two
stand for it, which are opposite.  One of them is found from the matrix: four times the scalar part
of a unit quaternion times the quaternion itself can be read from its matrix, and the other entries
are scalar parts as well, after a half turn about one of the axes.  The four squares add up to one,
so the largest of them is far from zero, and it is by this entry that the quaternion is computed.
-/

namespace Fiducial

noncomputable section

namespace Quaternion

variable {p q : Quaternion ℝ}

/-! ## Multiples of a quaternion -/

def squares (q : Quaternion ℝ) : ℝ := q.x * q.x + q.y * q.y + q.z * q.z + q.w * q.w

theorem squares_eq (q : Quaternion ℝ) : q.squares = q.norm * q.norm := q.norm_mul_norm.symm

theorem norm_eq_one_iff : q.norm = 1 ↔ q.squares = 1 := Real.sqrt_eq_one

theorem squares_scale (c : ℝ) (q : Quaternion ℝ) : (q.scale c).squares = c * c * q.squares := by
  simp only [squares, scale]
  ring

theorem neg_eq_scale (q : Quaternion ℝ) : q.neg = q.scale (-1) := by
  ext <;> simp only [neg, scale] <;> ring

theorem squares_neg (q : Quaternion ℝ) : q.neg.squares = q.squares := by
  rw [neg_eq_scale, squares_scale]
  ring

theorem norm_neg (q : Quaternion ℝ) : q.neg.norm = q.norm :=
  congrArg Real.sqrt q.squares_neg

theorem unitMatrix_scale (c : ℝ) (q : Quaternion ℝ) :
    (q.scale c).unitMatrix = q.unitMatrix.scale (c * c) := by
  ext <;> simp only [unitMatrix, scale, Mat3.scale, Vec3.scale] <;> ring

theorem unitMatrix_neg (q : Quaternion ℝ) : q.neg.unitMatrix = q.unitMatrix := by
  ext <;> simp only [unitMatrix, neg] <;> ring

theorem normalize_eq_scale (q : Quaternion ℝ) : q.normalize = q.scale (1 / q.norm) := by
  ext <;> simp only [normalize, scale] <;> ring

theorem squares_normalize (hlong : q.norm ≠ 0) : q.normalize.squares = 1 := by
  rw [squares_eq, norm_normalize hlong, mul_one]

theorem unitMatrix_normalize (q : Quaternion ℝ) :
    q.normalize.unitMatrix = q.unitMatrix.scale (1 / q.squares) := by
  rw [normalize_eq_scale, unitMatrix_scale, squares_eq, one_div_mul_one_div]

/-! ## The rotation of a quaternion -/

theorem toMatrix_of_unit (hunit : q.norm = 1) : q.toMatrix? = some q.unitMatrix := by
  have hlong : Scalar.tenth 12 ≤ q.norm := by
    rw [hunit]
    norm_num [Scalar.tenth]
  rw [toMatrix_of_long hlong, normalize_of_unit hunit]

theorem toMatrix_scale {c : ℝ} (hc : c ≠ 0) (hlong : Scalar.tenth 12 ≤ q.norm)
    (hscaled : Scalar.tenth 12 ≤ (q.scale c).norm) : (q.scale c).toMatrix? = q.toMatrix? := by
  have hne : q.squares ≠ 0 := by
    rw [squares_eq]
    exact mul_self_ne_zero.mpr (norm_ne_zero_of_long hlong)
  rw [toMatrix_of_long hlong, toMatrix_of_long hscaled, unitMatrix_normalize, unitMatrix_normalize,
    unitMatrix_scale, squares_scale]
  congr 1
  ext <;> simp only [Mat3.scale, Vec3.scale] <;> field_simp

theorem toMatrix_neg (q : Quaternion ℝ) : q.neg.toMatrix? = q.toMatrix? := by
  have hnorm : (q.scale (-1)).norm = q.norm := by rw [← neg_eq_scale, norm_neg]
  rw [neg_eq_scale]
  rcases lt_or_ge q.norm (Scalar.tenth 12) with hshort | hlong
  · rw [toMatrix_of_short hshort, toMatrix_of_short (by rwa [hnorm])]
  · exact toMatrix_scale (by norm_num) hlong (by rwa [hnorm])

/-- Products of the entries are all that a matrix shows of a unit quaternion. -/
structure SameProducts (p q : Quaternion ℝ) : Prop where
  xx : p.x * p.x = q.x * q.x
  yy : p.y * p.y = q.y * q.y
  zz : p.z * p.z = q.z * q.z
  ww : p.w * p.w = q.w * q.w
  xy : p.x * p.y = q.x * q.y
  xz : p.x * p.z = q.x * q.z
  yz : p.y * p.z = q.y * q.z
  xw : p.x * p.w = q.x * q.w
  yw : p.y * p.w = q.y * q.w
  zw : p.z * p.w = q.z * q.w

theorem sameProducts_of_unitMatrix (hp : p.squares = 1) (hq : q.squares = 1)
    (hmatrix : p.unitMatrix = q.unitMatrix) : SameProducts p q := by
  simp only [unitMatrix, Scalar.ofNat_real, Nat.cast_ofNat, Mat3.mk.injEq, Vec3.mk.injEq]
    at hmatrix
  obtain ⟨⟨h00, h01, h02⟩, ⟨h10, h11, h12⟩, ⟨h20, h21, h22⟩⟩ := hmatrix
  unfold squares at hp hq
  constructor
  case xx => linear_combination (h00 - h11 - h22 + hp - hq) / 4
  case yy => linear_combination (h11 - h00 - h22 + hp - hq) / 4
  case zz => linear_combination (h22 - h00 - h11 + hp - hq) / 4
  case ww => linear_combination (h00 + h11 + h22 + hp - hq) / 4
  case xy => linear_combination (h01 + h10) / 4
  case xz => linear_combination (h02 + h20) / 4
  case yz => linear_combination (h12 + h21) / 4
  case xw => linear_combination (h21 - h12) / 4
  case yw => linear_combination (h02 - h20) / 4
  case zw => linear_combination (h10 - h01) / 4

theorem SameProducts.eq_scale (hsame : SameProducts p q) (hp : p.squares = 1) :
    p = q.scale (p.x * q.x + p.y * q.y + p.z * q.z + p.w * q.w) := by
  obtain ⟨xx, yy, zz, ww, xy, xz, yz, xw, yw, zw⟩ := hsame
  unfold squares at hp
  ext <;> simp only [scale]
  case x => linear_combination p.x * xx + p.y * xy + p.z * xz + p.w * xw - p.x * hp
  case y => linear_combination p.x * xy + p.y * yy + p.z * yz + p.w * yw - p.y * hp
  case z => linear_combination p.x * xz + p.y * yz + p.z * zz + p.w * zw - p.z * hp
  case w => linear_combination p.x * xw + p.y * yw + p.z * zw + p.w * ww - p.w * hp

theorem eq_or_eq_neg_of_scale {c : ℝ} (hp : p.squares = 1) (hq : q.squares = 1)
    (hscale : p = q.scale c) : p = q ∨ p = q.neg := by
  have hsign : c * c = 1 := by
    rw [← hp, hscale, squares_scale, hq, mul_one]
  rcases mul_self_eq_one_iff.mp hsign with hone | hone
  · left
    rw [hscale, hone]
    ext <;> simp only [scale, one_mul]
  · right
    rw [hscale, hone, neg_eq_scale]

theorem eq_or_eq_neg_of_unitMatrix (hp : p.squares = 1) (hq : q.squares = 1)
    (hmatrix : p.unitMatrix = q.unitMatrix) : p = q ∨ p = q.neg :=
  eq_or_eq_neg_of_scale hp hq ((sameProducts_of_unitMatrix hp hq hmatrix).eq_scale hp)

/-! ## Products -/

def mul (p q : Quaternion ℝ) : Quaternion ℝ where
  x := p.w * q.x + p.x * q.w + p.y * q.z - p.z * q.y
  y := p.w * q.y - p.x * q.z + p.y * q.w + p.z * q.x
  z := p.w * q.z + p.x * q.y - p.y * q.x + p.z * q.w
  w := p.w * q.w - p.x * q.x - p.y * q.y - p.z * q.z

def conj (q : Quaternion ℝ) : Quaternion ℝ := ⟨-q.x, -q.y, -q.z, q.w⟩

theorem squares_mul (p q : Quaternion ℝ) : (p.mul q).squares = p.squares * q.squares := by
  simp only [squares, mul]
  ring

theorem squares_conj (q : Quaternion ℝ) : q.conj.squares = q.squares := by
  simp only [squares, conj]
  ring

theorem unitMatrix_mul (p q : Quaternion ℝ) :
    (p.mul q).unitMatrix = p.unitMatrix.mul q.unitMatrix := by
  ext <;>
    simp only [unitMatrix, mul, Mat3.mul, Mat3.transpose, Mat3.apply, Vec3.dot, Scalar.ofNat_real,
      Nat.cast_ofNat] <;>
    ring

theorem unitMatrix_conj (q : Quaternion ℝ) : q.conj.unitMatrix = q.unitMatrix.transpose := by
  ext <;> simp only [unitMatrix, conj, Mat3.transpose] <;> ring

/-! ## Quaternions of rotations -/

open Rotation (skewPart trace symmetricPart outer_skewPart normSq_skewPart)

variable {m : Mat3 ℝ} {e : Quaternion ℝ}

/-- Four times the quaternion of a rotation times its scalar part. -/
def ofTrace (m : Mat3 ℝ) : Quaternion ℝ :=
  ⟨(skewPart m).x, (skewPart m).y, (skewPart m).z, 1 + trace m⟩

theorem squares_ofTrace (hm : m.IsRotation) : (ofTrace m).squares = 4 * (1 + trace m) := by
  have hskew := normSq_skewPart hm
  simp only [Vec3.normSq, Vec3.dot] at hskew
  simp only [squares, ofTrace]
  linear_combination hskew

theorem unitMatrix_ofTrace (hm : m.IsRotation) :
    (ofTrace m).unitMatrix = m.scale (4 * (1 + trace m)) := by
  have houter := outer_skewPart hm
  simp only [Mat3.outer, Mat3.scale, symmetricPart, skewPart, trace, Mat3.sub, Mat3.add,
    Mat3.transpose, Mat3.identity, Vec3.scale, Vec3.sub, Vec3.add, Mat3.mk.injEq, Vec3.mk.injEq]
    at houter
  obtain ⟨⟨hxx, hxy, hxz⟩, ⟨-, hyy, hyz⟩, ⟨-, -, hzz⟩⟩ := houter
  ext <;>
    simp only [unitMatrix, ofTrace, skewPart, trace, Mat3.scale, Vec3.scale, Scalar.ofNat_real,
      Nat.cast_ofNat]
  case r0.x => linear_combination hxx - hyy - hzz
  case r1.y => linear_combination hyy - hxx - hzz
  case r2.z => linear_combination hzz - hxx - hyy
  case r0.y | r1.x => linear_combination 2 * hxy
  case r0.z | r2.x => linear_combination 2 * hxz
  case r1.z | r2.y => linear_combination 2 * hyz

/-- Four times the product of the quaternion `q` of a rotation with the scalar part of `q * e.conj`,
which is an entry of `q` if `e` is a unit. -/
def along (e : Quaternion ℝ) (m : Mat3 ℝ) : Quaternion ℝ :=
  (ofTrace (m.mul e.conj.unitMatrix)).mul e

/-- Four times the square of that scalar part. -/
def weight (e : Quaternion ℝ) (m : Mat3 ℝ) : ℝ := 1 + trace (m.mul e.conj.unitMatrix)

section Along

variable (hunit : e.squares = 1) (hm : m.IsRotation)
include hunit hm

theorem isRotation_mul_conj : (m.mul e.conj.unitMatrix).IsRotation := by
  apply hm.mul
  apply isRotation_unitMatrix
  rw [← hunit, ← squares_conj e]
  rfl

theorem squares_along : (along e m).squares = 4 * weight e m := by
  rw [along, squares_mul, hunit, mul_one, squares_ofTrace (isRotation_mul_conj hunit hm), weight]

theorem unitMatrix_along : (along e m).unitMatrix = m.scale (4 * weight e m) := by
  have hinverse : e.conj.unitMatrix.mul e.unitMatrix = Mat3.identity := by
    rw [unitMatrix_conj]
    exact (isRotation_unitMatrix hunit).transpose_mul
  calc
    (along e m).unitMatrix =
        ((m.mul e.conj.unitMatrix).scale (4 * weight e m)).mul e.unitMatrix := by
      rw [along, unitMatrix_mul, unitMatrix_ofTrace (isRotation_mul_conj hunit hm), weight]
    _ = (m.mul (e.conj.unitMatrix.mul e.unitMatrix)).scale (4 * weight e m) := by
      ext <;>
        simp only [Mat3.mul, Mat3.scale, Mat3.transpose, Mat3.apply, Vec3.scale, Vec3.dot] <;>
        ring
    _ = m.scale (4 * weight e m) := by
      rw [hinverse]
      ext <;>
        simp only [Mat3.mul, Mat3.scale, Mat3.transpose, Mat3.apply, Mat3.identity, Vec3.scale,
          Vec3.dot] <;>
        ring

end Along

/-! ## The largest entry -/

def units : List (Quaternion ℝ) := [⟨1, 0, 0, 0⟩, ⟨0, 1, 0, 0⟩, ⟨0, 0, 1, 0⟩, ⟨0, 0, 0, 1⟩]

theorem squares_of_mem_units (he : e ∈ units) : e.squares = 1 := by
  simp only [units, List.mem_cons, List.not_mem_nil, or_false] at he
  rcases he with rfl | rfl | rfl | rfl <;> norm_num [squares]

theorem along_units (m : Mat3 ℝ) :
    along ⟨1, 0, 0, 0⟩ m =
        ⟨1 - trace m + 2 * m.r0.x, m.r1.x + m.r0.y, m.r2.x + m.r0.z, m.r2.y - m.r1.z⟩ ∧
      along ⟨0, 1, 0, 0⟩ m =
        ⟨m.r0.y + m.r1.x, 1 - trace m + 2 * m.r1.y, m.r2.y + m.r1.z, m.r0.z - m.r2.x⟩ ∧
      along ⟨0, 0, 1, 0⟩ m =
        ⟨m.r0.z + m.r2.x, m.r1.z + m.r2.y, 1 - trace m + 2 * m.r2.z, m.r1.x - m.r0.y⟩ ∧
      along ⟨0, 0, 0, 1⟩ m =
        ⟨m.r2.y - m.r1.z, m.r0.z - m.r2.x, m.r1.x - m.r0.y, 1 + trace m⟩ := by
  refine ⟨?_, ?_, ?_, ?_⟩ <;> ext <;>
    simp only [along, ofTrace, mul, conj, unitMatrix, skewPart, trace, Mat3.mul, Mat3.transpose,
      Mat3.apply, Vec3.dot, Scalar.ofNat_real, Nat.cast_ofNat] <;>
    ring

theorem weight_units (m : Mat3 ℝ) :
    weight ⟨1, 0, 0, 0⟩ m = 1 - trace m + 2 * m.r0.x ∧
      weight ⟨0, 1, 0, 0⟩ m = 1 - trace m + 2 * m.r1.y ∧
      weight ⟨0, 0, 1, 0⟩ m = 1 - trace m + 2 * m.r2.z ∧
      weight ⟨0, 0, 0, 1⟩ m = 1 + trace m := by
  refine ⟨?_, ?_, ?_, ?_⟩ <;>
    simp only [weight, conj, unitMatrix, trace, Mat3.mul, Mat3.transpose, Mat3.apply, Vec3.dot,
      Scalar.ofNat_real, Nat.cast_ofNat] <;>
    ring

/-- The four weights add up to four, so the largest is at least one. -/
theorem exists_pivot (m : Mat3 ℝ) :
    ∃ e ∈ units, pivoted m = along e m ∧ 1 ≤ weight e m := by
  obtain ⟨alongX, alongY, alongZ, alongW⟩ := along_units m
  obtain ⟨weightX, weightY, weightZ, weightW⟩ := weight_units m
  have htrace : trace m = m.r0.x + m.r1.y + m.r2.z := rfl
  simp only [pivoted, Scalar.lt_real, Scalar.le_real, Bool.and_eq_true, decide_eq_true_eq,
    Scalar.ofNat_real, Nat.cast_ofNat, ← htrace]
  by_cases hscalar : (m.r0.x < trace m ∧ m.r1.y < trace m) ∧ m.r2.z < trace m
  · rw [if_pos hscalar]
    refine ⟨⟨0, 0, 0, 1⟩, by simp [units], alongW.symm, ?_⟩
    rw [weightW]
    linarith
  rw [if_neg hscalar]
  have hdiagonal : trace m ≤ m.r0.x ∨ trace m ≤ m.r1.y ∨ trace m ≤ m.r2.z := by
    by_contra hless
    simp only [not_or, not_le] at hless
    exact hscalar ⟨⟨hless.1, hless.2.1⟩, hless.2.2⟩
  by_cases hx : m.r1.y ≤ m.r0.x ∧ m.r2.z ≤ m.r0.x
  · rw [if_pos hx]
    refine ⟨⟨1, 0, 0, 0⟩, by simp [units], alongX.symm, ?_⟩
    rw [weightX]
    rcases hdiagonal with h | h | h <;> linarith
  rw [if_neg hx]
  by_cases hy : m.r2.z ≤ m.r1.y
  · rw [if_pos hy]
    refine ⟨⟨0, 1, 0, 0⟩, by simp [units], alongY.symm, ?_⟩
    have hlarger : m.r0.x ≤ m.r1.y := by
      by_contra hless
      exact hx ⟨(not_le.mp hless).le, hy.trans (not_le.mp hless).le⟩
    rw [weightY]
    rcases hdiagonal with h | h | h <;> linarith
  · rw [if_neg hy]
    refine ⟨⟨0, 0, 1, 0⟩, by simp [units], alongZ.symm, ?_⟩
    have hlarger : m.r0.x ≤ m.r2.z := by
      by_contra hless
      exact hx ⟨(not_le.mp hy).le.trans (not_le.mp hless).le, (not_le.mp hless).le⟩
    rw [weightZ]
    rcases hdiagonal with h | h | h <;> linarith

/-! ## From the matrix to the quaternion and back -/

theorem normalize_pivoted (hm : m.IsRotation) :
    (pivoted m).normalize.squares = 1 ∧ (pivoted m).normalize.unitMatrix = m := by
  obtain ⟨e, he, hpivot, hweight⟩ := exists_pivot m
  have hunit := squares_of_mem_units he
  have hsquares : (pivoted m).squares = 4 * weight e m := by rw [hpivot, squares_along hunit hm]
  have hne : (pivoted m).squares ≠ 0 := by
    rw [hsquares]
    linarith
  constructor
  · apply squares_normalize
    intro hzero
    rw [squares_eq, hzero, mul_zero] at hne
    exact hne rfl
  · rw [unitMatrix_normalize, hsquares, hpivot, unitMatrix_along hunit hm]
    rw [hsquares] at hne
    ext <;> simp only [Mat3.scale, Vec3.scale] <;> field_simp

/-- The quaternion that is found of a rotation. -/
structure Stands (q : Quaternion ℝ) (m : Mat3 ℝ) : Prop where
  norm_eq : q.norm = 1
  real_nonneg : 0 ≤ q.w
  unitMatrix_eq : q.unitMatrix = m

theorem stands_ofMatrix (hm : m.IsRotation) : Stands (ofMatrix m) m := by
  obtain ⟨hunit, hmatrix⟩ := normalize_pivoted hm
  unfold ofMatrix
  simp only [Scalar.lt_real, decide_eq_true_eq]
  by_cases hneg : (pivoted m).normalize.w < 0
  · rw [if_pos hneg]
    refine ⟨?_, (neg_pos.mpr hneg).le, ?_⟩
    · rw [norm_neg, norm_eq_one_iff, hunit]
    · rw [unitMatrix_neg, hmatrix]
  · rw [if_neg hneg]
    exact ⟨norm_eq_one_iff.mpr hunit, not_lt.mp hneg, hmatrix⟩

theorem toQuaternion_of_isRotation (hm : m.IsRotation) :
    Rotation.toQuaternion m = .ok (ofMatrix m) := by
  rw [Rotation.toQuaternion, Rotation.nearest_of_isRotation hm]
  rfl

/-- Of two opposite quaternions the one whose real part is not negative is found. -/
theorem Stands.eq_or_eq_neg (hp : Stands p m) (hunit : q.norm = 1) (hmatrix : q.unitMatrix = m) :
    (0 < q.w → p = q) ∧ (q.w < 0 → p = q.neg) ∧ (q.w = 0 → p = q ∨ p = q.neg) := by
  have hsame : p = q ∨ p = q.neg :=
    eq_or_eq_neg_of_unitMatrix (norm_eq_one_iff.mp hp.norm_eq) (norm_eq_one_iff.mp hunit)
      (hp.unitMatrix_eq.trans hmatrix.symm)
  have hreal := hp.real_nonneg
  refine ⟨?_, ?_, fun _ => hsame⟩
  · intro hpos
    rcases hsame with rfl | rfl
    · rfl
    · exact absurd hreal (not_le.mpr (neg_neg_of_pos hpos))
  · intro hneg
    rcases hsame with rfl | rfl
    · exact absurd hreal (not_le.mpr hneg)
    · rfl

/-- Quaternions and rotations determine each other, up to length and sign. -/
structure Corresponds : Prop where
  long : ∀ q : Quaternion ℝ, Scalar.tenth 12 ≤ q.norm → ∃ m, q.toMatrix? = some m ∧ m.IsRotation
  short : ∀ q : Quaternion ℝ, q.norm < Scalar.tenth 12 → q.toMatrix? = none
  multiple : ∀ (q : Quaternion ℝ) (c : ℝ), c ≠ 0 → Scalar.tenth 12 ≤ q.norm →
    Scalar.tenth 12 ≤ (q.scale c).norm → (q.scale c).toMatrix? = q.toMatrix?
  opposite : ∀ q : Quaternion ℝ, q.neg.toMatrix? = q.toMatrix?
  rotation : ∀ m : Mat3 ℝ, m.IsRotation → ∃ q, Rotation.toQuaternion m = .ok q ∧
    q.norm = 1 ∧ 0 ≤ q.w ∧ q.toMatrix? = some m
  unit : ∀ q : Quaternion ℝ, q.norm = 1 → ∃ m p, q.toMatrix? = some m ∧
    Rotation.toQuaternion m = .ok p ∧
      (0 < q.w → p = q) ∧ (q.w < 0 → p = q.neg) ∧ (q.w = 0 → p = q ∨ p = q.neg)

theorem corresponds : Corresponds := by
  constructor
  case long =>
    intro q hlong
    exact ⟨_, toMatrix_of_long hlong, isRotation_normalize (norm_ne_zero_of_long hlong)⟩
  case short => exact fun q => toMatrix_of_short
  case multiple => exact fun q c => toMatrix_scale
  case opposite => exact toMatrix_neg
  case rotation =>
    intro m hm
    have hstands := stands_ofMatrix hm
    refine ⟨ofMatrix m, toQuaternion_of_isRotation hm, hstands.norm_eq, hstands.real_nonneg, ?_⟩
    rw [toMatrix_of_unit hstands.norm_eq, hstands.unitMatrix_eq]
  case unit =>
    intro q hunit
    have hm : q.unitMatrix.IsRotation := isRotation_unitMatrix (norm_eq_one_iff.mp hunit)
    exact ⟨q.unitMatrix, ofMatrix q.unitMatrix, toMatrix_of_unit hunit,
      toQuaternion_of_isRotation hm, (stands_ofMatrix hm).eq_or_eq_neg hunit rfl⟩

/-- Half a turn about the y axis, whose quaternion has no real part. -/
theorem corresponds_half_turn : (⟨0, -1, 0, 0⟩ : Quaternion ℝ).norm = 1 ∧
    ∃ m p, (⟨0, -1, 0, 0⟩ : Quaternion ℝ).toMatrix? = some m ∧
      Rotation.toQuaternion m = .ok p ∧ (p = ⟨0, -1, 0, 0⟩ ∨ p = ⟨0, 1, 0, 0⟩) := by
  have hunit : (⟨0, -1, 0, 0⟩ : Quaternion ℝ).norm = 1 := by
    rw [norm_eq_one_iff]
    norm_num [squares]
  obtain ⟨m, p, hm, hp, -, -, hhalf⟩ := corresponds.unit _ hunit
  refine ⟨hunit, m, p, hm, hp, ?_⟩
  simpa [neg] using hhalf rfl

end Quaternion

end

end Fiducial
