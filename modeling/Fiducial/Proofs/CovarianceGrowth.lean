import Mathlib
import Fiducial.Proofs.PublishedBounds

/-!
# How a covariance grows with distance

In exact arithmetic the factor is one up to five metres and the third power of the distance over
five metres from there on, so it never falls.  A covariance is a matrix of six rows and columns.  To
multiply it by a factor keeps it positive semidefinite, and of two factors the larger one gives the
larger matrix in the order of such matrices: what is seen from further away is never held to be more
certain, in any direction.
-/

namespace Fiducial

/-! ## Rows -/

/-- The groups are the pieces of the list between the multiples of their length. -/
theorem Tensor.getElem?_chunks {β : Type} {n fuel i : Nat} {xs : List β} (hfuel : i < fuel)
    (hmore : n * i < xs.length) :
    (chunks n fuel xs)[i]? = some ((xs.drop (n * i)).take n) := by
  induction fuel generalizing i xs with
  | zero => omega
  | succ fuel ih =>
      have hsome : xs.isEmpty = false := by
        cases xs with
        | nil => simp at hmore
        | cons x xs => rfl
      rw [chunks, hsome]
      cases i with
      | zero => simp
      | succ i =>
          have hrest : n * i < (xs.drop n).length := by
            rw [List.length_drop]
            rw [Nat.mul_succ] at hmore
            omega
          have hnext := ih (by omega) hrest
          rw [List.drop_drop, Nat.add_comm, ← Nat.mul_succ] at hnext
          simpa using hnext

noncomputable section

namespace Covariance

theorem entry_lt (i j : Fin 6) : 6 * i.val + j.val < 36 := by omega

def toMatrix (c : Covariance ℝ) : Matrix (Fin 6) (Fin 6) ℝ :=
  Matrix.of fun i j => c.entries.get ⟨6 * i.val + j.val, by rw [c.length_eq]; exact entry_lt i j⟩

theorem rows_eq (c : Covariance ℝ) (i j : Fin 6) :
    c.rows[i.val]?.bind (·[j.val]?) = some (c.toMatrix i j) := by
  have hmore : 6 * i.val < c.entries.length := by
    rw [c.length_eq]
    omega
  have hentry : 6 * i.val + j.val < c.entries.length := by
    rw [c.length_eq]
    exact entry_lt i j
  rw [rows, Tensor.getElem?_chunks i.isLt hmore, Option.bind_some, List.getElem?_take_of_lt j.isLt,
    List.getElem?_drop, List.getElem?_eq_getElem hentry]
  rfl

theorem toMatrix_scale (s : ℝ) (c : Covariance ℝ) : (c.scale s).toMatrix = s • c.toMatrix := by
  ext i j
  simp [toMatrix, scale, map]

/-! ## Factors -/

section Factors

variable {d d₁ d₂ s s₁ s₂ : ℝ}

theorem factor_eq (hd : 0 ≤ d) : factor d = .ok (max 1 ((d / 5) ^ 3)) := by
  have hmax : Scalar.max 1 ((d / 5) ^ 3) = max 1 ((d / 5) ^ 3) := by
    unfold Scalar.max
    rw [Scalar.lt_real]
    by_cases hlt : 1 < (d / 5) ^ 3
    · rw [if_pos (decide_eq_true hlt), max_eq_right hlt.le]
    · rw [if_neg (by simpa using hlt), max_eq_left (not_lt.mp hlt)]
  have hsign : ¬ d < 0 := not_lt.mpr hd
  simp [factor, referenceDistance, hsign, hmax]

theorem nonneg_of_factor (hfactor : factor d = .ok s) : 0 ≤ d := by
  by_contra hneg
  simp [factor, not_le.mp hneg] at hfactor

theorem eq_of_factor (hfactor : factor d = .ok s) : s = max 1 ((d / 5) ^ 3) := by
  rw [factor_eq (nonneg_of_factor hfactor)] at hfactor
  exact (Except.ok.inj hfactor).symm

theorem factor_near (hd : 0 ≤ d) (hnear : d ≤ 5) : factor d = .ok 1 := by
  have hcube : (d / 5) ^ 3 ≤ 1 := pow_le_one₀ (by positivity) (by linarith)
  rw [factor_eq hd, max_eq_left hcube]

theorem factor_far (hfar : 5 ≤ d) : factor d = .ok ((d / 5) ^ 3) := by
  have hcube : 1 ≤ (d / 5) ^ 3 := one_le_pow₀ (by linarith)
  rw [factor_eq (by linarith), max_eq_right hcube]

theorem one_le_factor (hfactor : factor d = .ok s) : 1 ≤ s := by
  rw [eq_of_factor hfactor]
  exact le_max_left 1 _

/-- The third power and the floor both keep the order, so nothing happens at five metres. -/
theorem factor_mono (hle : d₁ ≤ d₂) (hfactor₁ : factor d₁ = .ok s₁)
    (hfactor₂ : factor d₂ = .ok s₂) : s₁ ≤ s₂ := by
  have hd := nonneg_of_factor hfactor₁
  rw [eq_of_factor hfactor₁, eq_of_factor hfactor₂]
  gcongr

end Factors

/-! ## The order of covariances -/

theorem posSemidef_scale_sub {c : Covariance ℝ} (hc : c.toMatrix.PosSemidef) {s₁ s₂ : ℝ}
    (hle : s₁ ≤ s₂) : Matrix.PosSemidef ((c.scale s₂).toMatrix - (c.scale s₁).toMatrix) := by
  rw [toMatrix_scale, toMatrix_scale, ← sub_smul]
  exact hc.smul (sub_nonneg.mpr hle)

/-- What a base covariance becomes at a distance, and with growing distance. -/
structure Widens (c : Covariance ℝ) : Prop where
  near : ∀ d : ℝ, 0 ≤ d → d ≤ 5 → factor d = .ok 1
  far : ∀ d : ℝ, 5 ≤ d → factor d = .ok ((d / 5) ^ 3)
  one_le : ∀ d s : ℝ, factor d = .ok s → 1 ≤ s
  monotone : ∀ d₁ d₂ s₁ s₂ : ℝ, d₁ ≤ d₂ → factor d₁ = .ok s₁ → factor d₂ = .ok s₂ → s₁ ≤ s₂
  /-- The matrix is that of the rows in which the entries are kept. -/
  rows : ∀ s (i j : Fin 6),
    (c.scale s).rows[i.val]?.bind (·[j.val]?) = some ((c.scale s).toMatrix i j)
  scaled : ∀ s i j, (c.scale s).toMatrix i j = s * c.toMatrix i j
  zero_iff : ∀ d s, factor d = .ok s → ∀ i j, (c.scale s).toMatrix i j = 0 ↔ c.toMatrix i j = 0
  semidefinite : c.toMatrix.PosSemidef → ∀ d s, factor d = .ok s →
    Matrix.PosSemidef (c.scale s).toMatrix ∧
      Matrix.PosSemidef ((c.scale s).toMatrix - c.toMatrix)
  ordered : c.toMatrix.PosSemidef → ∀ d₁ d₂ s₁ s₂, d₁ ≤ d₂ → factor d₁ = .ok s₁ →
    factor d₂ = .ok s₂ → Matrix.PosSemidef ((c.scale s₂).toMatrix - (c.scale s₁).toMatrix)
  /-- It is by these factors that the covariances of estimates are made. -/
  estimated : ∀ (setup : FuserConfig ℝ) (d : Detection ℝ) (pose : Transform ℝ) (e : Estimate ℝ),
    setup.covariance = c → Judgement.estimate setup d pose = .ok e →
      factor e.distance = .ok e.scale ∧ e.covariance = c.scale e.scale

/-- Exact factors make every covariance wider with the distance and none narrower. -/
theorem widens (c : Covariance ℝ) : c.Widens := by
  constructor
  case near => exact fun d => factor_near
  case far => exact fun d => factor_far
  case one_le => exact fun d s => one_le_factor
  case monotone => exact fun d₁ d₂ s₁ s₂ => factor_mono
  case rows => exact fun s => rows_eq (c.scale s)
  case scaled =>
    intro s i j
    rw [toMatrix_scale]
    rfl
  case zero_iff =>
    intro d s hfactor i j
    have hpos : s ≠ 0 := by linarith [one_le_factor hfactor]
    rw [toMatrix_scale, Matrix.smul_apply, smul_eq_mul, mul_eq_zero_iff_left hpos]
  case semidefinite =>
    intro hc d s hfactor
    have hone := one_le_factor hfactor
    constructor
    · rw [toMatrix_scale]
      exact hc.smul (by linarith)
    · have hsub := posSemidef_scale_sub hc hone
      rwa [toMatrix_scale 1, one_smul] at hsub
  case ordered =>
    intro hc d₁ d₂ s₁ s₂ hle hfactor₁ hfactor₂
    exact posSemidef_scale_sub hc (factor_mono hle hfactor₁ hfactor₂)
  case estimated =>
    rintro setup d pose e rfl hestimate
    exact ⟨(Judgement.estimate_parts hestimate).2.2, (Judgement.estimate_fields hestimate).2.2⟩

end Covariance
end
end Fiducial
