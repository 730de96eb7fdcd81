import Fiducial.Proofs.PoseRecovery

/-!
# The laws of composition and inversion

Rigid transforms are a group, so what holds in a group holds of them as they are stored: an inverse
is taken back by inverting again, and the inverse of a product is the product of the inverses in the
other order.  `invert` only transposes, and that is not enough beyond them: `compose t t.invert` is
the identity for those matrices alone whose rotation block is orthogonal and whose bottom row is
that of the identity.
-/

namespace Fiducial

noncomputable section

namespace Transform

/-! ## Rigid transforms -/

namespace IsRigid

variable {a b t : Transform ℝ}

theorem invert_invert (ht : t.IsRigid) : t.invert.invert = t := by
  let r : Rigid := ⟨t, ht⟩
  exact congrArg Subtype.val (inv_inv r)

theorem invert_of_compose (ha : a.IsRigid) (hb : b.IsRigid) :
    (a.compose b).invert = b.invert.compose a.invert := by
  let r : Rigid := ⟨a, ha⟩
  let s : Rigid := ⟨b, hb⟩
  exact congrArg Subtype.val (mul_inv_rev r s)

/-- The inverse is that of the matrix. -/
theorem toMatrix_invert (ht : t.IsRigid) : t.invert.toMatrix = t.toMatrix⁻¹ := by
  apply (Matrix.inv_eq_right_inv _).symm
  rw [← toMatrix_compose, ht.compose_invert, toMatrix_identity]

end IsRigid

/-! ## Other matrices -/

/-- The rotation block is orthogonal: a rotation, perhaps with a reflection. -/
def IsOrthogonal (t : Transform ℝ) : Prop :=
  t.rotation.toMatrix ∈ Matrix.orthogonalGroup (Fin 3) ℝ

theorem isOrthogonal_iff (t : Transform ℝ) :
    t.IsOrthogonal ↔ t.rotation.mul t.rotation.transpose = Mat3.identity := by
  unfold IsOrthogonal
  rw [Matrix.mem_orthogonalGroup_iff, ← Mat3.toMatrix_transpose, ← Mat3.toMatrix_mul,
    ← Mat3.toMatrix_identity, Mat3.toMatrix_injective.eq_iff]

/-- The last row of an inverse is fixed, so nothing is added to the product of the blocks. -/
theorem rotation_compose_invert (t : Transform ℝ) :
    (t.compose t.invert).rotation = t.rotation.mul t.rotation.transpose := by
  ext <;>
    simp only [compose, invert, rigid, rowTimes, dot4, Mat3.mul, Mat3.apply, Mat3.transpose,
      Vec3.dot, Vec3.zero] <;>
    ring

theorem bottom_compose_invert (t : Transform ℝ) :
    (t.compose t.invert).bottom = t.rotation.apply t.bottom := by
  ext <;>
    simp only [compose, invert, rigid, rowTimes, dot4, Mat3.apply, Mat3.transpose, Vec3.dot,
      Vec3.zero] <;>
    ring

theorem corner_compose_invert {t : Transform ℝ} (hbottom : t.bottom = Vec3.zero) :
    (t.compose t.invert).corner = t.corner := by
  simp only [compose, invert, rigid, dot4, Vec3.dot, hbottom, Vec3.zero]
  ring

/-- An orthogonal block maps no row but zero to zero. -/
theorem IsOrthogonal.eq_zero {t : Transform ℝ} (ht : t.IsOrthogonal) {v : Vec3 ℝ}
    (hv : t.rotation.apply v = Vec3.zero) : v = Vec3.zero := by
  have hcolumns : t.rotation.transpose.mul t.rotation = Mat3.identity := by
    apply Mat3.toMatrix_injective
    rw [Mat3.toMatrix_mul, Mat3.toMatrix_transpose, Mat3.toMatrix_identity]
    exact (Matrix.mem_orthogonalGroup_iff' (Fin 3) ℝ).mp ht
  calc
    v = t.rotation.transpose.apply (t.rotation.apply v) := by
      rw [← Mat3.apply_mul, hcolumns, Mat3.apply_identity]
    _ = Vec3.zero := by
      rw [hv]
      ext <;> simp only [Mat3.apply, Vec3.dot, Vec3.zero] <;> ring

/-- The matrices that `invert` inverts. -/
theorem compose_invert_iff (t : Transform ℝ) :
    t.compose t.invert = identity ↔ t.IsOrthogonal ∧ t.bottom = Vec3.zero ∧ t.corner = 1 := by
  constructor
  · intro hinverse
    have horthogonal : t.IsOrthogonal := by
      rw [isOrthogonal_iff, ← rotation_compose_invert, hinverse]
      rfl
    have hbottom : t.bottom = Vec3.zero := by
      apply horthogonal.eq_zero
      rw [← bottom_compose_invert, hinverse]
      rfl
    refine ⟨horthogonal, hbottom, ?_⟩
    rw [← corner_compose_invert hbottom, hinverse]
    rfl
  · rintro ⟨horthogonal, hbottom, hcorner⟩
    have ht : t = rigid t.rotation t.translation := by
      ext <;> simp [rigid, hbottom, hcorner]
    rw [ht]
    exact compose_invert_rigid ((isOrthogonal_iff t).mp horthogonal) t.translation

/-! ## All laws -/

/-- Rigid transforms compose and invert as a group does, and `invert` inverts nothing but a rotation
or reflection followed by a translation. -/
structure GroupLaws : Prop where
  /-- For any matrices, and not for rigid ones only. -/
  assoc : ∀ a b c : Transform ℝ, (a.compose b).compose c = a.compose (b.compose c)
  rigid_compose : ∀ a b : Transform ℝ, a.IsRigid → b.IsRigid → (a.compose b).IsRigid
  rigid_invert : ∀ t : Transform ℝ, t.IsRigid → t.invert.IsRigid
  right_inverse : ∀ t : Transform ℝ, t.IsRigid → t.compose t.invert = identity
  left_inverse : ∀ t : Transform ℝ, t.IsRigid → t.invert.compose t = identity
  involutive : ∀ t : Transform ℝ, t.IsRigid → t.invert.invert = t
  reverses : ∀ a b : Transform ℝ, a.IsRigid → b.IsRigid →
    (a.compose b).invert = b.invert.compose a.invert
  /-- Composition and inversion are those of matrices. -/
  product : ∀ a b : Transform ℝ, (a.compose b).toMatrix = a.toMatrix * b.toMatrix
  inverse : ∀ t : Transform ℝ, t.IsRigid → t.invert.toMatrix = t.toMatrix⁻¹
  inverts_iff : ∀ t : Transform ℝ, t.compose t.invert = identity ↔
    t.IsOrthogonal ∧ t.bottom = Vec3.zero ∧ t.corner = 1

theorem obeys_group_laws : GroupLaws where
  assoc := compose_assoc
  rigid_compose _ _ ha hb := ha.compose hb
  rigid_invert _ ht := ht.invert
  right_inverse _ ht := ht.compose_invert
  left_inverse _ ht := ht.invert_compose
  involutive _ ht := ht.invert_invert
  reverses _ _ ha hb := ha.invert_of_compose hb
  product := toMatrix_compose
  inverse _ ht := ht.toMatrix_invert
  inverts_iff := compose_invert_iff

/-- A quarter turn about the x axis after one about the z axis, which do not commute. -/
theorem obeys_group_laws_quarter_turns :
    (rigid QuarterTurns.turnX ⟨1, 2, 3⟩).IsRigid ∧ (rigid QuarterTurns.turnZ ⟨4, 5, 6⟩).IsRigid ∧
      ((rigid QuarterTurns.turnX ⟨1, 2, 3⟩).compose (rigid QuarterTurns.turnZ ⟨4, 5, 6⟩)).invert =
        (rigid QuarterTurns.turnZ ⟨4, 5, 6⟩).invert.compose
          (rigid QuarterTurns.turnX ⟨1, 2, 3⟩).invert := by
  have hx := isRigid_rigid QuarterTurns.isRotation_turnX ⟨1, 2, 3⟩
  have hz := isRigid_rigid QuarterTurns.isRotation_turnZ ⟨4, 5, 6⟩
  exact ⟨hx, hz, obeys_group_laws.reverses _ _ hx hz⟩

end Transform

end

end Fiducial
