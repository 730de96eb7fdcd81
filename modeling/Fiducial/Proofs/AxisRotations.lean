import Mathlib
import Fiducial.Proofs.RotationFormulas

/-!
# Rotations about an axis

Rodrigues' formula makes a rotation that keeps the axis where it is and that is undone by the
opposite rotation vector.  The formula has no direction to work with when the vector is zero, which
stands for no rotation, and what is computed treats every vector below the machine precision like
that.  The laws do not depend on where this cut is made, because the identity obeys them as well, so
they hold for the formula itself and for the rotations that are computed, and these are the same
from the machine precision on.
-/

namespace Fiducial

noncomputable section

theorem Vec3.norm_neg (v : Vec3 ℝ) : v.neg.norm = v.norm := by
  simp [norm, normSq, neg, dot]

namespace Rotation

/-! ## The formula -/

section Axis

variable {k : Vec3 ℝ} {c s : ℝ}

theorem about_apply_axis (haxis : k.normSq = 1) (a : ℝ) :
    (about k c s).apply (k.scale a) = k.scale a := by
  have hunit : k.x * k.x + k.y * k.y + k.z * k.z = 1 := haxis
  ext <;>
    simp only [about, Mat3.apply, Mat3.add, Mat3.scale, Mat3.identity, Mat3.outer, Mat3.skew,
      Vec3.add, Vec3.scale, Vec3.dot]
  · linear_combination (1 - c) * a * k.x * hunit
  · linear_combination (1 - c) * a * k.y * hunit
  · linear_combination (1 - c) * a * k.z * hunit

/-- Only the skew part of the formula changes its sign with the axis. -/
theorem about_neg (k : Vec3 ℝ) (c s : ℝ) : about k.neg c s = (about k c s).transpose := by
  ext <;>
    simp only [about, Mat3.transpose, Mat3.add, Mat3.scale, Mat3.identity, Mat3.outer, Mat3.skew,
      Vec3.add, Vec3.scale, Vec3.neg] <;>
    ring

end Axis

theorem scale_direction {r : Vec3 ℝ} (hlong : r.norm ≠ 0) : (direction r).scale r.norm = r := by
  ext <;> simp only [direction, Vec3.scale] <;> field_simp

theorem direction_neg (r : Vec3 ℝ) : direction r.neg = (direction r).neg := by
  unfold direction
  rw [Vec3.norm_neg]
  ext <;> simp only [Vec3.scale, Vec3.neg] <;> ring

/-! ## Where the formula is used -/

/-- Short vectors give the identity and all others the rotation of the formula. -/
structure UsesFormula (short : ℝ → Prop) (turn : Vec3 ℝ → Mat3 ℝ) : Prop where
  zero : short 0
  eq_identity : ∀ r, short r.norm → turn r = Mat3.identity
  eq_rodrigues : ∀ r, ¬short r.norm → turn r = rodrigues r

/-- The formula for all vectors but zero. -/
def exactly (r : Vec3 ℝ) : Mat3 ℝ := if r.norm = 0 then Mat3.identity else rodrigues r

theorem usesFormula_exactly : UsesFormula (· = 0) exactly where
  zero := rfl
  eq_identity _ hzero := if_pos hzero
  eq_rodrigues _ hlong := if_neg hlong

theorem usesFormula_ofVector : UsesFormula (· < precision) ofVector where
  zero := precision_pos
  eq_identity _ hshort := if_pos (decide_eq_true hshort)
  eq_rodrigues r hlong := if_neg (by simpa using hlong)

/-! ## The laws -/

/-- The matrices are rotations about the vectors, and so are the transforms made of them. -/
structure TurnsAbout (turn : Vec3 ℝ → Mat3 ℝ) : Prop where
  isRotation : ∀ r, (turn r).IsRotation
  axis : ∀ r, (turn r).apply r = r
  neg : ∀ r, turn r.neg = (turn r).transpose
  zero : turn Vec3.zero = Mat3.identity
  isRigid : ∀ r v, (Transform.rigid (turn r) v).IsRigid
  invert : ∀ r v, (Transform.rigid (turn r) v).invert =
    Transform.rigid (turn r.neg) ((turn r).transpose.apply v).neg

namespace UsesFormula

variable {short : ℝ → Prop} {turn : Vec3 ℝ → Mat3 ℝ}

theorem norm_ne_zero (hturn : UsesFormula short turn) {r : Vec3 ℝ} (hlong : ¬short r.norm) :
    r.norm ≠ 0 := by
  intro hzero
  rw [hzero] at hlong
  exact hlong hturn.zero

theorem isRotation (hturn : UsesFormula short turn) (r : Vec3 ℝ) : (turn r).IsRotation := by
  by_cases hshort : short r.norm
  · rw [hturn.eq_identity r hshort]
    exact Mat3.isRotation_identity
  · rw [hturn.eq_rodrigues r hshort]
    exact isRotation_rodrigues (hturn.norm_ne_zero hshort)

theorem apply_self (hturn : UsesFormula short turn) (r : Vec3 ℝ) : (turn r).apply r = r := by
  by_cases hshort : short r.norm
  · rw [hturn.eq_identity r hshort, Mat3.apply_identity]
  · have hlong := hturn.norm_ne_zero hshort
    have haxis : (direction r).normSq = 1 := Vec3.normSq_direction hlong
    have hfixed := about_apply_axis (c := Real.cos r.norm) (s := Real.sin r.norm) haxis r.norm
    rw [scale_direction hlong] at hfixed
    rw [hturn.eq_rodrigues r hshort]
    exact hfixed

theorem neg (hturn : UsesFormula short turn) (r : Vec3 ℝ) : turn r.neg = (turn r).transpose := by
  by_cases hshort : short r.norm
  · rw [hturn.eq_identity r hshort, hturn.eq_identity r.neg (by rwa [Vec3.norm_neg])]
    rfl
  · rw [hturn.eq_rodrigues r hshort, hturn.eq_rodrigues r.neg (by rwa [Vec3.norm_neg])]
    unfold rodrigues
    rw [direction_neg, Vec3.norm_neg, about_neg]

theorem turnsAbout (hturn : UsesFormula short turn) : TurnsAbout turn where
  isRotation := hturn.isRotation
  axis := hturn.apply_self
  neg := hturn.neg
  zero := by
    apply hturn.eq_identity
    rw [Vec3.norm_zero]
    exact hturn.zero
  isRigid r v := Transform.isRigid_rigid (hturn.isRotation r) v
  invert r v := by rw [Transform.invert_rigid, hturn.neg r]

end UsesFormula

/-- The formula and what is computed from rotation vectors obey the same laws, and are the same but
for vectors shorter than the machine precision. -/
structure VectorsTurn : Prop where
  formula : TurnsAbout exactly
  computed : TurnsAbout ofVector
  agree : ∀ r, r.norm = 0 ∨ precision ≤ r.norm → ofVector r = exactly r
  isRigid : ∀ r v : Vec3 ℝ, (Transform.ofVectors r v).IsRigid
  invert : ∀ r v : Vec3 ℝ, (Transform.ofVectors r v).invert =
    Transform.ofVectors r.neg ((ofVector r).transpose.apply v).neg

theorem vectors_turn : VectorsTurn where
  formula := usesFormula_exactly.turnsAbout
  computed := usesFormula_ofVector.turnsAbout
  agree := by
    rintro r (hzero | hlong)
    · have hshort : r.norm < precision := by
        rw [hzero]
        exact precision_pos
      rw [usesFormula_exactly.eq_identity r hzero, usesFormula_ofVector.eq_identity r hshort]
    · have hne : r.norm ≠ 0 := (lt_of_lt_of_le precision_pos hlong).ne'
      rw [usesFormula_exactly.eq_rodrigues r hne,
        usesFormula_ofVector.eq_rodrigues r (not_lt.mpr hlong)]
  isRigid := usesFormula_ofVector.turnsAbout.isRigid
  invert := usesFormula_ofVector.turnsAbout.invert

/-- An axis that is none of the coordinate axes. -/
theorem vectors_turn_slanted : precision ≤ (⟨3, 0, 4⟩ : Vec3 ℝ).norm ∧
    ofVector (⟨3, 0, 4⟩ : Vec3 ℝ) = rodrigues ⟨3, 0, 4⟩ := by
  have hnorm : (⟨3, 0, 4⟩ : Vec3 ℝ).norm = 5 := by
    rw [Vec3.norm, Scalar.sqrt_real, Real.sqrt_eq_iff_mul_self_eq] <;>
      norm_num [Vec3.normSq, Vec3.dot]
  have hlong : precision ≤ (⟨3, 0, 4⟩ : Vec3 ℝ).norm := by
    rw [hnorm]
    norm_num [precision]
  refine ⟨hlong, ?_⟩
  rw [vectors_turn.agree _ (.inr hlong), usesFormula_exactly.eq_rodrigues]
  norm_num [hnorm]

end Rotation

end

end Fiducial
