import Fiducial.Geometry.Transform
import Fiducial.Proofs.ExactArithmetic

/-!
# Rigid transforms

In exact arithmetic the transforms are the matrices of four rows and columns, and `compose` is
their product.  A transform is rigid if it is a rotation followed by a translation.  The rotation
of a rigid transform is orthogonal, so transposing it inverts it, and `invert` is the inverse of the
whole transform.  The rigid transforms are a group under `compose` and `invert`.
-/

namespace Fiducial

noncomputable section

attribute [ext] Vec3 Mat3 Transform

/-! ## Rotations -/

namespace Mat3

def toMatrix (m : Mat3 ℝ) : Matrix (Fin 3) (Fin 3) ℝ :=
  !![m.r0.x, m.r0.y, m.r0.z;
    m.r1.x, m.r1.y, m.r1.z;
    m.r2.x, m.r2.y, m.r2.z]

theorem toMatrix_injective : Function.Injective toMatrix := by
  intro a b hmatrix
  have hentry : ∀ i j, a.toMatrix i j = b.toMatrix i j := fun i j => by rw [hmatrix]
  ext
  · exact hentry 0 0
  · exact hentry 0 1
  · exact hentry 0 2
  · exact hentry 1 0
  · exact hentry 1 1
  · exact hentry 1 2
  · exact hentry 2 0
  · exact hentry 2 1
  · exact hentry 2 2

theorem toMatrix_identity : (identity : Mat3 ℝ).toMatrix = 1 := by
  ext i j
  fin_cases i <;> fin_cases j <;> rfl

theorem toMatrix_transpose (m : Mat3 ℝ) : m.transpose.toMatrix = m.toMatrix.transpose := by
  ext i j
  fin_cases i <;> fin_cases j <;> rfl

theorem toMatrix_mul (a b : Mat3 ℝ) : (a.mul b).toMatrix = a.toMatrix * b.toMatrix := by
  ext i j
  fin_cases i <;> fin_cases j <;>
    simp [toMatrix, mul, transpose, apply, Vec3.dot, Matrix.mul_apply, Fin.sum_univ_three] <;>
    ring

theorem det_toMatrix (m : Mat3 ℝ) : m.toMatrix.det = m.det := by
  simp only [Matrix.det_fin_three, toMatrix, Matrix.of_apply, Matrix.cons_val', Matrix.cons_val,
    det, Vec3.dot, Vec3.cross]
  ring

theorem apply_mul (a b : Mat3 ℝ) (v : Vec3 ℝ) : (a.mul b).apply v = a.apply (b.apply v) := by
  ext <;> simp only [mul, apply, transpose, Vec3.dot] <;> ring

theorem apply_identity (v : Vec3 ℝ) : (identity : Mat3 ℝ).apply v = v := by
  ext <;> simp only [identity, apply, Vec3.dot] <;> ring

theorem neg_apply (m : Mat3 ℝ) (v : Vec3 ℝ) : m.neg.apply v = (m.apply v).neg := by
  ext <;> simp only [neg, apply, Vec3.dot, Vec3.neg] <;> ring

theorem apply_neg (m : Mat3 ℝ) (v : Vec3 ℝ) : m.apply v.neg = (m.apply v).neg := by
  ext <;> simp only [apply, Vec3.dot, Vec3.neg] <;> ring

def IsRotation (m : Mat3 ℝ) : Prop := m.toMatrix ∈ Matrix.specialOrthogonalGroup (Fin 3) ℝ

theorem isRotation_iff (m : Mat3 ℝ) :
    m.IsRotation ↔ m.mul m.transpose = identity ∧ m.det = 1 := by
  unfold IsRotation
  rw [Matrix.mem_specialOrthogonalGroup_iff, Matrix.mem_orthogonalGroup_iff, ← toMatrix_transpose,
    ← toMatrix_mul, ← toMatrix_identity, toMatrix_injective.eq_iff, det_toMatrix]

theorem isRotation_identity : (identity : Mat3 ℝ).IsRotation := by
  unfold IsRotation
  rw [toMatrix_identity]
  exact one_mem _

namespace IsRotation

variable {a b m : Mat3 ℝ}

theorem mul (ha : a.IsRotation) (hb : b.IsRotation) : (a.mul b).IsRotation := by
  unfold IsRotation
  rw [toMatrix_mul]
  exact mul_mem ha hb

theorem mul_transpose (hm : m.IsRotation) : m.mul m.transpose = identity :=
  ((isRotation_iff m).mp hm).1

theorem transpose_mul (hm : m.IsRotation) : m.transpose.mul m = identity := by
  apply toMatrix_injective
  rw [toMatrix_mul, toMatrix_transpose, toMatrix_identity]
  have horthogonal := (Matrix.mem_specialOrthogonalGroup_iff.mp hm).1
  exact (Matrix.mem_orthogonalGroup_iff' (Fin 3) ℝ).mp horthogonal

theorem transpose (hm : m.IsRotation) : m.transpose.IsRotation := by
  have hdet := ((isRotation_iff m).mp hm).2
  apply (isRotation_iff _).mpr
  constructor
  · exact hm.transpose_mul
  · rw [← det_toMatrix, toMatrix_transpose, Matrix.det_transpose, det_toMatrix, hdet]

end IsRotation

end Mat3

/-! ## Transforms as matrices -/

namespace Transform

def toMatrix (t : Transform ℝ) : Matrix (Fin 4) (Fin 4) ℝ :=
  !![t.rotation.r0.x, t.rotation.r0.y, t.rotation.r0.z, t.translation.x;
    t.rotation.r1.x, t.rotation.r1.y, t.rotation.r1.z, t.translation.y;
    t.rotation.r2.x, t.rotation.r2.y, t.rotation.r2.z, t.translation.z;
    t.bottom.x, t.bottom.y, t.bottom.z, t.corner]

theorem toMatrix_compose (a b : Transform ℝ) :
    (compose a b).toMatrix = a.toMatrix * b.toMatrix := by
  ext i j
  fin_cases i <;> fin_cases j <;>
    simp [toMatrix, compose, rowTimes, dot4, Mat3.transpose, Vec3.dot, Matrix.mul_apply,
      Fin.sum_univ_four]

theorem toMatrix_identity : (identity : Transform ℝ).toMatrix = 1 := by
  ext i j
  fin_cases i <;> fin_cases j <;> rfl

theorem toMatrix_injective : Function.Injective toMatrix := by
  intro a b hmatrix
  have hentry : ∀ i j, a.toMatrix i j = b.toMatrix i j := fun i j => by rw [hmatrix]
  ext
  · exact hentry 0 0
  · exact hentry 0 1
  · exact hentry 0 2
  · exact hentry 1 0
  · exact hentry 1 1
  · exact hentry 1 2
  · exact hentry 2 0
  · exact hentry 2 1
  · exact hentry 2 2
  · exact hentry 0 3
  · exact hentry 1 3
  · exact hentry 2 3
  · exact hentry 3 0
  · exact hentry 3 1
  · exact hentry 3 2
  · exact hentry 3 3

theorem compose_assoc (a b c : Transform ℝ) :
    compose (compose a b) c = compose a (compose b c) := by
  apply toMatrix_injective
  rw [toMatrix_compose, toMatrix_compose, toMatrix_compose, toMatrix_compose, Matrix.mul_assoc]

theorem identity_compose (t : Transform ℝ) : compose identity t = t := by
  apply toMatrix_injective
  rw [toMatrix_compose, toMatrix_identity, Matrix.one_mul]

theorem compose_identity (t : Transform ℝ) : compose t identity = t := by
  apply toMatrix_injective
  rw [toMatrix_compose, toMatrix_identity, Matrix.mul_one]

/-! ## Rigid transforms -/

structure IsRigid (t : Transform ℝ) : Prop where
  rotation : t.rotation.IsRotation
  bottom : t.bottom = Vec3.zero
  corner : t.corner = 1

theorem isRigid_rigid {m : Mat3 ℝ} (hm : m.IsRotation) (v : Vec3 ℝ) : (rigid m v).IsRigid :=
  ⟨hm, rfl, rfl⟩

theorem IsRigid.eq_rigid {t : Transform ℝ} (ht : t.IsRigid) :
    t = rigid t.rotation t.translation := by
  obtain ⟨rotation, translation, bottom, corner⟩ := t
  have hbottom : bottom = Vec3.zero := ht.bottom
  have hcorner : corner = 1 := ht.corner
  rw [hbottom, hcorner]
  rfl

theorem compose_rigid (a b : Mat3 ℝ) (u v : Vec3 ℝ) :
    compose (rigid a u) (rigid b v) = rigid (a.mul b) ((a.apply v).add u) := by
  ext <;>
    simp only [compose, rigid, rowTimes, dot4, Mat3.mul, Mat3.apply, Mat3.transpose, Vec3.add,
      Vec3.dot, Vec3.zero] <;>
    ring

theorem invert_rigid (m : Mat3 ℝ) (v : Vec3 ℝ) :
    invert (rigid m v) = rigid m.transpose (m.transpose.apply v).neg := by
  unfold invert
  rw [← Mat3.neg_apply]
  rfl

/-- The inverse needs no more than an orthogonal block. -/
theorem compose_invert_rigid {m : Mat3 ℝ} (hm : m.mul m.transpose = Mat3.identity) (v : Vec3 ℝ) :
    (rigid m v).compose (rigid m v).invert = identity := by
  have hzero : v.neg.add v = Vec3.zero := by
    ext <;> simp only [Vec3.add, Vec3.neg, Vec3.zero] <;> ring
  rw [invert_rigid, compose_rigid, Mat3.apply_neg, ← Mat3.apply_mul, hm, Mat3.apply_identity,
    hzero]
  rfl

namespace IsRigid

variable {a b t : Transform ℝ}

theorem compose (ha : a.IsRigid) (hb : b.IsRigid) : (compose a b).IsRigid := by
  rw [ha.eq_rigid, hb.eq_rigid, compose_rigid]
  exact isRigid_rigid (ha.rotation.mul hb.rotation) _

theorem invert (ht : t.IsRigid) : t.invert.IsRigid :=
  isRigid_rigid ht.rotation.transpose _

theorem compose_invert (ht : t.IsRigid) : t.compose t.invert = identity := by
  rw [ht.eq_rigid]
  exact compose_invert_rigid ht.rotation.mul_transpose _

theorem invert_compose (ht : t.IsRigid) : t.invert.compose t = identity := by
  have hrotation := ht.rotation.transpose_mul
  rw [ht.eq_rigid, invert_rigid, compose_rigid, hrotation]
  have hzero : (t.rotation.transpose.apply t.translation).add
      (t.rotation.transpose.apply t.translation).neg = Vec3.zero := by
    ext <;> simp only [Vec3.add, Vec3.neg, Vec3.zero] <;> ring
  change rigid _ ((t.rotation.transpose.apply t.translation).add
      (t.rotation.transpose.apply t.translation).neg) = _
  rw [hzero]
  rfl

end IsRigid

theorem isRigid_identity : (identity : Transform ℝ).IsRigid :=
  isRigid_rigid Mat3.isRotation_identity Vec3.zero

end Transform

/-! ## The group of rigid transforms -/

def Rigid : Type := { t : Transform ℝ // t.IsRigid }

namespace Rigid

open Transform

instance : Group Rigid where
  mul a b := ⟨compose a.1 b.1, a.2.compose b.2⟩
  one := ⟨identity, isRigid_identity⟩
  inv t := ⟨invert t.1, t.2.invert⟩
  mul_assoc a b c := Subtype.ext (compose_assoc a.1 b.1 c.1)
  one_mul t := Subtype.ext (identity_compose t.1)
  mul_one t := Subtype.ext (compose_identity t.1)
  inv_mul_cancel t := Subtype.ext t.2.invert_compose

def toMatrix (t : Rigid) : Matrix (Fin 4) (Fin 4) ℝ := t.1.toMatrix

theorem toMatrix_mul (a b : Rigid) : (a * b).toMatrix = a.toMatrix * b.toMatrix :=
  toMatrix_compose a.1 b.1

theorem toMatrix_one : (1 : Rigid).toMatrix = 1 := toMatrix_identity

/-- The equation of matrices `m * b = l` has one solution. -/
theorem mul_eq_iff (m : Matrix (Fin 4) (Fin 4) ℝ) (b l : Rigid) :
    m * b.toMatrix = l.toMatrix ↔ m = (l * b⁻¹).toMatrix := by
  constructor
  · intro hproduct
    calc
      m = m * (b * b⁻¹).toMatrix := by rw [mul_inv_cancel, toMatrix_one, Matrix.mul_one]
      _ = m * b.toMatrix * b⁻¹.toMatrix := by rw [toMatrix_mul, Matrix.mul_assoc]
      _ = (l * b⁻¹).toMatrix := by rw [hproduct, toMatrix_mul]
  · intro hsolution
    rw [hsolution, ← toMatrix_mul, inv_mul_cancel_right]

end Rigid

end

end Fiducial
