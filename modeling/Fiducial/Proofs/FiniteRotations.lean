import Fiducial.Geometry.Rotation
import Fiducial.Proofs.DoubleMagnitudes

/-!
# Finite rotations

Sines and cosines are taken from a library of functions, of which only this is assumed: for a finite
angle they are at most one, and the cosine of an angle that is not finite is no number.  Then the
rotation of a finite vector is finite, unless the length of the vector is beyond the doubles; then
no entry of its matrix is a number.  The rotation of a finite quaternion is always finite, because a
quaternion whose length is not finite or almost zero is refused.
-/

namespace Fiducial

/-- Doubles with the sine and the cosine of a library of functions. -/
@[reducible] def Scalar.ofTrig (sin cos : Float → Float) : Scalar Float :=
  { instScalarFloat with sin := sin, cos := cos }

/-- What a library of functions promises of sines and cosines. -/
structure IsTrigonometry (sin cos : Float → Float) : Prop where
  sin_le : ∀ x, x.isFinite = true → (sin x).abs ≤ 1.0
  cos_le : ∀ x, x.isFinite = true → (cos x).abs ≤ 1.0
  cos_nan : ∀ x, x.isFinite = false → (cos x).isNaN = true

namespace Double

open Float.Model (Format UnpackedFloat totalExponent)
open Float.Model.UnpackedFloat

/-! ## Constants -/

theorem unpack_of_bits {x : Float} {b : BitVec 64} (hbits : x.toModel.toBits.toBitVec = b) :
    x.toModel.unpack = UnpackedFloat.unpack Format.binary64 b := by
  unfold Float.Model.unpack
  rw [hbits]

theorem unpack_one : ∃ h, (1.0 : Float).toModel.unpack = .finite .positive (2 ^ 52) (-52) h := by
  refine ⟨by decide, ?_⟩
  rw [unpack_of_bits (b := 0x3ff0000000000000#64) (by decide +kernel)]
  rfl

theorem below_zero (k : Int) : Below k (0.0 : Float) := trivial

theorem below_one : Below 1 (1.0 : Float) := by
  obtain ⟨h, hone⟩ := unpack_one
  unfold Below
  rw [hone]
  exact ⟨isCanonical_of_unpack hone, by decide⟩

theorem unpack_two : ∃ h, (Scalar.ofNat 2 : Float).toModel.unpack =
    .finite .positive (2 ^ 52) (-51) h := by
  refine ⟨by decide, ?_⟩
  rw [unpack_of_bits (b := 0x4000000000000000#64) (by decide +kernel)]
  rfl

theorem below_two : Below 2 (Scalar.ofNat 2 : Float) := by
  obtain ⟨h, htwo⟩ := unpack_two
  unfold Below
  rw [htwo]
  exact ⟨isCanonical_of_unpack htwo, by decide⟩

theorem unpack_precision : ∃ h, (Rotation.precision : Float).toModel.unpack =
    .finite .positive (2 ^ 52) (-104) h := by
  refine ⟨by decide, ?_⟩
  rw [unpack_of_bits (b := 0x3cb0000000000000#64) (by decide +kernel)]
  rfl

theorem unpack_tenth : ∃ h, (Scalar.tenth 12 : Float).toModel.unpack =
    .finite .positive 0x119799812dea11 (-92) h := by
  refine ⟨by decide, ?_⟩
  rw [unpack_of_bits (b := 0x3d719799812dea11#64) (by decide +kernel)]
  rfl

/-! ## No numbers -/

section NoNumbers

variable {x : Float}

theorem unpack_of_isNaN (hx : x.isNaN = true) : x.toModel.unpack = .notANumber := by
  have hmodel : x.toModel.unpack.isNaN = true := hx
  cases hunpack : x.toModel.unpack with
  | notANumber => rfl
  | _ =>
      rw [hunpack] at hmodel
      cases hmodel

theorem isNaN_mul (hx : x.isNaN = true) (y : Float) : (x * y).isNaN = true := by
  change (UnpackedFloat.unpack Format.binary64 (UnpackedFloat.pack Format.binary64
    (UnpackedFloat.mul Format.binary64 x.toModel.unpack y.toModel.unpack))).isNaN = true
  rw [unpack_of_isNaN hx, UnpackedFloat.mul]
  rfl

theorem isNaN_add (hx : x.isNaN = true) (y : Float) : (x + y).isNaN = true := by
  change (UnpackedFloat.unpack Format.binary64 (UnpackedFloat.pack Format.binary64
    (UnpackedFloat.add Format.binary64 x.toModel.unpack y.toModel.unpack))).isNaN = true
  rw [unpack_of_isNaN hx, UnpackedFloat.add]
  rfl

theorem not_isFinite_of_isNaN (hx : x.isNaN = true) : ¬ x.isFinite = true := by
  intro hfinite
  have hmodel : x.toModel.unpack.isFinite = true := hfinite
  rw [unpack_of_isNaN hx] at hmodel
  cases hmodel

end NoNumbers

/-! ## Division by a length -/

/-- The double is at least as large as the square of `x`. -/
def Dominates (s x : Float) : Prop := ∀ k, -511 ≤ k → Above k x → Above (2 * k) s

section Lengths

variable {s t x : Float}

theorem Dominates.square (hfinite : (x * x).isFinite = true) : Dominates (x * x) x :=
  fun _ hk hx => hx.square hk hfinite

theorem Dominates.add (hs : Dominates s x) (hssign : IsUnsigned s.toModel.unpack)
    (htsign : IsUnsigned t.toModel.unpack) (hfinite : (s + t).isFinite = true) :
    Dominates (s + t) x :=
  fun k hk hx => (hs k hk hx).add hssign htsign (by omega) hfinite

theorem Dominates.add_left (ht : Dominates t x) (hssign : IsUnsigned s.toModel.unpack)
    (htsign : IsUnsigned t.toModel.unpack) (hfinite : (s + t).isFinite = true) :
    Dominates (s + t) x :=
  fun k hk hx => (ht k hk hx).add_left hssign htsign (by omega) hfinite

theorem Dominates.sqrt (hs : Dominates s x) (hsign : IsUnsigned s.toModel.unpack)
    (hroot : (Float.sqrt s).isFinite = true) {k : Int} (hk : -511 ≤ k) (hx : Above k x) :
    Above k (Float.sqrt s) :=
  (hs k hk hx).sqrt hsign (by omega) hroot

/-- The squared length of a vector is as large as the square of any coordinate. -/
theorem dominates_normSq {v : Vec3 Float} (hsum : v.normSq.isFinite = true) :
    Dominates v.normSq v.x ∧ Dominates v.normSq v.y ∧ Dominates v.normSq v.z := by
  have hx := isUnsigned_square v.x
  have hy := isUnsigned_square v.y
  have hz := isUnsigned_square v.z
  obtain ⟨hfinite, hzfinite⟩ := isFinite_of_add hsum
  obtain ⟨hxfinite, hyfinite⟩ := isFinite_of_add hfinite
  refine ⟨?_, ?_, ?_⟩
  · exact ((Dominates.square hxfinite).add hx hy hfinite).add (isUnsigned_sum hx hy) hz hsum
  · exact ((Dominates.square hyfinite).add_left hx hy hfinite).add (isUnsigned_sum hx hy) hz hsum
  · exact (Dominates.square hzfinite).add_left (isUnsigned_sum hx hy) hz hsum

/-- A finite double divided by a length that is at least as large is small, however it is divided;
the length only has to stay away from zero. -/
theorem below_quotients {n : Float} {i : Int} (hx : x.isFinite = true) (hn : Above i n)
    (hi : -538 ≤ i) (hlarge : ∀ k, -511 ≤ k → Above k x → Above k n) :
    Below 32 (x / n) ∧ Below 32 (1.0 / n * x) := by
  rcases exists_place hx (-511) with hsmall | ⟨k, hk, hk', hbelow, habove⟩
  · have hinverse : Below 540 (1.0 / n) :=
      below_one.div hn (by omega) (by decide) (by decide)
    exact ⟨hsmall.div hn (by omega) (by decide) (by decide),
      hinverse.mul hsmall (by decide) (by decide) (by decide)⟩
  · have hlength : Above (k - 1) n := hlarge (k - 1) (by omega) habove
    have hinverse : Below (3 - k) (1.0 / n) :=
      below_one.div hlength (by omega) (by omega) (by omega)
    exact ⟨hbelow.div hlength (by omega) (by decide) (by decide),
      hinverse.mul hbelow (by omega) (by decide) (by decide)⟩

end Lengths
end Double

/-! ## Vectors and matrices of bounded entries -/

open Double (Below Above)

def Vec3.IsBelow (k : Int) (v : Vec3 Float) : Prop := Below k v.x ∧ Below k v.y ∧ Below k v.z

def Mat3.IsBelow (k : Int) (m : Mat3 Float) : Prop :=
  m.r0.IsBelow k ∧ m.r1.IsBelow k ∧ m.r2.IsBelow k

/-- No entry of the matrix is a number. -/
def Mat3.HasNoNumber (m : Mat3 Float) : Prop := ∀ v ∈ m.rows, ∀ a ∈ v.toList, a.isNaN = true

theorem Mat3.HasNoNumber.not_isFinite {m : Mat3 Float} (hm : m.HasNoNumber) :
    ¬ m.isFinite = true := by
  intro hfinite
  simp only [Mat3.isFinite, Vec3.isFinite, Bool.and_eq_true] at hfinite
  have hcorner : m.r0.x.isNaN = true := hm m.r0 List.mem_cons_self _ List.mem_cons_self
  exact Double.not_isFinite_of_isNaN hcorner hfinite.1.1.1.1

section Matrices

variable {i j k : Int} {c : Float} {u v : Vec3 Float} {a b : Mat3 Float}

theorem Vec3.IsBelow.isFinite (hv : v.IsBelow k) : v.isFinite = true := by
  obtain ⟨hx, hy, hz⟩ := hv
  simp only [Vec3.isFinite, Bool.and_eq_true]
  exact ⟨⟨hx.isFinite, hy.isFinite⟩, hz.isFinite⟩

theorem Mat3.IsBelow.isFinite (ha : a.IsBelow k) : a.isFinite = true := by
  obtain ⟨h0, h1, h2⟩ := ha
  simp only [Mat3.isFinite, Bool.and_eq_true]
  exact ⟨⟨h0.isFinite, h1.isFinite⟩, h2.isFinite⟩

theorem Vec3.IsBelow.scale (hc : Below i c) (hv : v.IsBelow j) (hk : i + j < k)
    (hleast : -1072 ≤ k) (hmost : k ≤ 1024) : (v.scale c).IsBelow k :=
  ⟨hc.mul hv.1 hk hleast hmost, hc.mul hv.2.1 hk hleast hmost, hc.mul hv.2.2 hk hleast hmost⟩

theorem Vec3.IsBelow.add (hu : u.IsBelow j) (hv : v.IsBelow j) (hk : j + 1 < k)
    (hleast : -1072 ≤ k) (hmost : k ≤ 1024) : (u.add v).IsBelow k :=
  ⟨hu.1.add hv.1 hk hleast hmost, hu.2.1.add hv.2.1 hk hleast hmost,
    hu.2.2.add hv.2.2 hk hleast hmost⟩

theorem Mat3.IsBelow.scale (hc : Below i c) (ha : a.IsBelow j) (hk : i + j < k)
    (hleast : -1072 ≤ k) (hmost : k ≤ 1024) : (a.scale c).IsBelow k :=
  ⟨.scale hc ha.1 hk hleast hmost, .scale hc ha.2.1 hk hleast hmost,
    .scale hc ha.2.2 hk hleast hmost⟩

theorem Mat3.IsBelow.add (ha : a.IsBelow j) (hb : b.IsBelow j) (hk : j + 1 < k)
    (hleast : -1072 ≤ k) (hmost : k ≤ 1024) : (a.add b).IsBelow k :=
  ⟨ha.1.add hb.1 hk hleast hmost, ha.2.1.add hb.2.1 hk hleast hmost,
    ha.2.2.add hb.2.2 hk hleast hmost⟩

theorem Mat3.isBelow_outer (hu : u.IsBelow i) (hv : v.IsBelow j) (hk : i + j < k)
    (hleast : -1072 ≤ k) (hmost : k ≤ 1024) : (Mat3.outer u v).IsBelow k :=
  ⟨.scale hu.1 hv hk hleast hmost, .scale hu.2.1 hv hk hleast hmost,
    .scale hu.2.2 hv hk hleast hmost⟩

theorem Mat3.isBelow_skew (hv : v.IsBelow k) (hmost : k ≤ 1024) : (Mat3.skew v).IsBelow k := by
  obtain ⟨hx, hy, hz⟩ := hv
  have hzero : Below k (0 : Float) := Double.below_zero k
  exact ⟨⟨hzero, hz.neg hmost, hy⟩, ⟨hz, hzero, hx.neg hmost⟩, ⟨hy.neg hmost, hx, hzero⟩⟩

theorem Mat3.isBelow_identity : (Mat3.identity : Mat3 Float).IsBelow 1 := by
  have hzero : Below 1 (0.0 : Float) := Double.below_zero 1
  have hone := Double.below_one
  exact ⟨⟨hone, hzero, hzero⟩, ⟨hzero, hone, hzero⟩, ⟨hzero, hzero, hone⟩⟩

end Matrices

/-! ## Rotation vectors -/

namespace Rotation

open Double

section Norms

variable {r : Vec3 Float}

theorem not_lt_of_not_finite {x y : Float} (hx : x.isFinite = false)
    (hsign : IsUnsigned x.toModel.unpack) : Scalar.lt x y = false := by
  have hmodel : x.toModel.unpack.isFinite = false := hx
  rw [lt_unpack]
  cases hunpack : x.toModel.unpack with
  | infinity s =>
      rw [hunpack] at hsign
      subst hsign
      cases y.toModel.unpack with
      | infinity t => cases t <;> rfl
      | finite t m e h => cases t <;> rfl
      | _ => rfl
  | notANumber => rfl
  | _ =>
      rw [hunpack] at hmodel
      cases hmodel

/-- The axis of a rotation by no small angle has small coordinates. -/
theorem isBelow_axis (hr : r.isFinite = true) (hnorm : r.norm.isFinite = true)
    (hangle : Scalar.lt r.norm precision = false) : (r.scale (1 / r.norm)).IsBelow 32 := by
  obtain ⟨h, hprecision⟩ := unpack_precision
  obtain ⟨hx, hy, hz⟩ := dominates_normSq (isFinite_of_sqrt hnorm)
  have hsign := isUnsigned_normSq r
  have hlength : Above (-52) r.norm :=
    above_of_not_lt hnorm (isUnsigned_root hsign) hprecision hangle (by decide)
  simp only [Vec3.isFinite, Bool.and_eq_true] at hr
  obtain ⟨⟨hxfinite, hyfinite⟩, hzfinite⟩ := hr
  exact ⟨(below_quotients hxfinite hlength (by decide) fun _ => hx.sqrt hsign hnorm).2,
    (below_quotients hyfinite hlength (by decide) fun _ => hy.sqrt hsign hnorm).2,
    (below_quotients hzfinite hlength (by decide) fun _ => hz.sqrt hsign hnorm).2⟩

end Norms

/-- The rotation by an angle of the given cosine and sine about an axis. -/
def aboutAxis {α : Type} [Scalar α] (c s : α) (k : Vec3 α) : Mat3 α :=
  ((Mat3.identity.scale c).add ((Mat3.outer k k).scale (1 - c))).add ((Mat3.skew k).scale s)

theorem isBelow_aboutAxis {c s : Float} {k : Vec3 Float} (hc : Below 1 c) (hs : Below 1 s)
    (hk : k.IsBelow 32) : (aboutAxis c s k).IsBelow 73 := by
  have hcosine : (Mat3.identity.scale c).IsBelow 69 :=
    .scale hc Mat3.isBelow_identity (by decide) (by decide) (by decide)
  have hrest : Below 3 (1 - c) := below_one.sub hc (by decide) (by decide) (by decide)
  have houter : (Mat3.outer k k).IsBelow 65 :=
    Mat3.isBelow_outer hk hk (by decide) (by decide) (by decide)
  have hprojection : ((Mat3.outer k k).scale (1 - c)).IsBelow 69 :=
    .scale hrest houter (by decide) (by decide) (by decide)
  have hskew : ((Mat3.skew k).scale s).IsBelow 71 :=
    .scale hs (Mat3.isBelow_skew hk (by decide)) (by decide) (by decide) (by decide)
  exact (hcosine.add hprojection (by decide) (by decide) (by decide)).add hskew (by decide)
    (by decide) (by decide)

theorem hasNoNumber_aboutAxis {c : Float} (hc : c.isNaN = true) (s : Float) (k : Vec3 Float) :
    (aboutAxis c s k).HasNoNumber := by
  have hentry (d p q : Float) : (c * d + p + q).isNaN = true :=
    isNaN_add (isNaN_add (isNaN_mul hc d) p) q
  intro v hv a ha
  simp only [Mat3.rows, List.mem_cons, List.not_mem_nil, or_false] at hv
  rcases hv with rfl | rfl | rfl <;>
    simp only [Vec3.toList, List.mem_cons, List.not_mem_nil, or_false] at ha <;>
      rcases ha with rfl | rfl | rfl <;> exact hentry _ _ _

section Library

variable {sin cos : Float → Float} {r : Vec3 Float}

theorem ofVector_ofTrig :
    @ofVector Float (Scalar.ofTrig sin cos) r = if Scalar.lt r.norm precision then Mat3.identity
      else aboutAxis (cos r.norm) (sin r.norm) (r.scale (1 / r.norm)) := by
  have hnorm : @Vec3.norm Float (Scalar.ofTrig sin cos) r = r.norm := rfl
  unfold ofVector
  dsimp only
  rw [hnorm]
  rfl

variable (htrig : IsTrigonometry sin cos)
include htrig

/-- The rotation of a finite vector whose length is finite is finite. -/
theorem isFinite_ofVector (hr : r.isFinite = true) (hnorm : r.norm.isFinite = true) :
    (@ofVector Float (Scalar.ofTrig sin cos) r).isFinite = true := by
  obtain ⟨h, hone⟩ := unpack_one
  rw [ofVector_ofTrig]
  by_cases hangle : Scalar.lt r.norm precision = true
  · rw [if_pos hangle]
    exact Mat3.isBelow_identity.isFinite
  · rw [if_neg hangle]
    have hc : Below 1 (cos r.norm) := below_of_abs_le hone (htrig.cos_le _ hnorm) (by decide)
    have hs : Below 1 (sin r.norm) := below_of_abs_le hone (htrig.sin_le _ hnorm) (by decide)
    exact (isBelow_aboutAxis hc hs
      (isBelow_axis hr hnorm (Bool.eq_false_of_not_eq_true hangle))).isFinite

/-- No entry of the rotation is a number if the length of the vector is not finite. -/
theorem hasNoNumber_ofVector (hnorm : r.norm.isFinite = false) :
    (@ofVector Float (Scalar.ofTrig sin cos) r).HasNoNumber := by
  rw [ofVector_ofTrig, not_lt_of_not_finite hnorm (isUnsigned_root (isUnsigned_normSq r))]
  exact hasNoNumber_aboutAxis (htrig.cos_nan _ hnorm) _ _

end Library

end Rotation

/-! ## Quaternions -/

namespace Quaternion

open Double

variable {q : Quaternion Float}

def IsFinite (q : Quaternion Float) : Prop :=
  q.x.isFinite = true ∧ q.y.isFinite = true ∧ q.z.isFinite = true ∧ q.w.isFinite = true

def normSq (q : Quaternion Float) : Float := q.x * q.x + q.y * q.y + q.z * q.z + q.w * q.w

/-- The coordinates of a quaternion before the last. -/
def vectorPart (q : Quaternion Float) : Vec3 Float := ⟨q.x, q.y, q.z⟩

theorem normSq_eq (q : Quaternion Float) : q.normSq = q.vectorPart.normSq + q.w * q.w := rfl

theorem isUnsigned_normSq (q : Quaternion Float) : IsUnsigned q.normSq.toModel.unpack := by
  rw [normSq_eq]
  exact isUnsigned_sum (Double.isUnsigned_normSq q.vectorPart) (isUnsigned_square q.w)

theorem dominates_normSq (hsum : q.normSq.isFinite = true) :
    Dominates q.normSq q.x ∧ Dominates q.normSq q.y ∧ Dominates q.normSq q.z ∧
      Dominates q.normSq q.w := by
  have hvector := Double.isUnsigned_normSq q.vectorPart
  have hw := isUnsigned_square q.w
  rw [normSq_eq] at hsum ⊢
  obtain ⟨hfinite, hwfinite⟩ := isFinite_of_add hsum
  obtain ⟨hxdom, hydom, hzdom⟩ := Double.dominates_normSq hfinite
  exact ⟨hxdom.add hvector hw hsum, hydom.add hvector hw hsum, hzdom.add hvector hw hsum,
    (Dominates.square hwfinite).add_left hvector hw hsum⟩

def IsBelow (k : Int) (q : Quaternion Float) : Prop :=
  Below k q.x ∧ Below k q.y ∧ Below k q.z ∧ Below k q.w

/-- The coordinates of a quaternion are small after it is divided by a length that stays away from
zero. -/
theorem isBelow_normalize {i : Int} (hq : q.IsFinite) (hnorm : q.norm.isFinite = true)
    (hlength : Above i q.norm) (hi : -538 ≤ i) : q.normalize.IsBelow 32 := by
  obtain ⟨hx, hy, hz, hw⟩ := dominates_normSq (isFinite_of_sqrt hnorm)
  have hsign := isUnsigned_normSq q
  exact ⟨(below_quotients hq.1 hlength hi fun _ => hx.sqrt hsign hnorm).1,
    (below_quotients hq.2.1 hlength hi fun _ => hy.sqrt hsign hnorm).1,
    (below_quotients hq.2.2.1 hlength hi fun _ => hz.sqrt hsign hnorm).1,
    (below_quotients hq.2.2.2 hlength hi fun _ => hw.sqrt hsign hnorm).1⟩

theorem IsBelow.isFinite {k : Int} (hq : q.IsBelow k) : q.IsFinite :=
  ⟨hq.1.isFinite, hq.2.1.isFinite, hq.2.2.1.isFinite, hq.2.2.2.isFinite⟩

theorem IsBelow.isFinite_norm (hq : q.IsBelow 32) : q.norm.isFinite = true := by
  have hsquare {a : Float} (ha : Below 32 a) : Below 65 (a * a) :=
    ha.mul ha (by decide) (by decide) (by decide)
  have hsum : Below 71 q.normSq :=
    (((hsquare hq.1).add ((hsquare hq.2.1).mono (by decide)) (k := 67) (by decide) (by decide)
      (by decide)).add ((hsquare hq.2.2.1).mono (by decide)) (k := 69) (by decide) (by decide)
      (by decide)).add ((hsquare hq.2.2.2).mono (by decide)) (by decide) (by decide) (by decide)
  exact (sqrt_finite_not_lt_zero hsum.isFinite q.isUnsigned_normSq).1

theorem isBelow_unitMatrix (hq : q.IsBelow 32) : q.unitMatrix.IsBelow 71 := by
  obtain ⟨hx, hy, hz, hw⟩ := hq
  have hmul {a b : Float} (ha : Below 32 a) (hb : Below 32 b) : Below 65 (a * b) :=
    ha.mul hb (by decide) (by decide) (by decide)
  have hadd {a b : Float} (j : Int) (ha : Below j a) (hb : Below 65 b) (hj : 65 ≤ j)
      (hj' : j ≤ 1000) : Below (j + 2) (a + b) :=
    ha.add (hb.mono hj) (by omega) (by omega) (by omega)
  have hsub {a b : Float} (j : Int) (ha : Below j a) (hb : Below 65 b) (hj : 65 ≤ j)
      (hj' : j ≤ 1000) : Below (j + 2) (a - b) :=
    ha.sub (hb.mono hj) (by omega) (by omega) (by omega)
  have htwice {a : Float} (ha : Below 67 a) : Below 71 (Scalar.ofNat 2 * a) :=
    below_two.mul ha (by decide) (by decide) (by decide)
  have hsum {a b : Float} (ha : Below 65 a) (hb : Below 65 b) :
      Below 71 (Scalar.ofNat 2 * (a + b)) :=
    htwice (hadd 65 ha hb le_rfl (by decide))
  have hdifference {a b : Float} (ha : Below 65 a) (hb : Below 65 b) :
      Below 71 (Scalar.ofNat 2 * (a - b)) :=
    htwice (hsub 65 ha hb le_rfl (by decide))
  have hneg {a : Float} (ha : Below 65 a) : Below 65 (-a) := ha.neg (by decide)
  have hxx := hmul hx hx
  have hyy := hmul hy hy
  have hzz := hmul hz hz
  have hww := hmul hw hw
  refine ⟨⟨?_, ?_, ?_⟩, ⟨?_, ?_, ?_⟩, ?_, ?_, ?_⟩
  · exact hadd 69 (hsub 67 (hsub 65 hxx hyy (by decide) (by decide)) hzz (by decide) (by decide))
      hww (by decide) (by decide)
  · exact hdifference (hmul hx hy) (hmul hz hw)
  · exact hsum (hmul hx hz) (hmul hy hw)
  · exact hsum (hmul hx hy) (hmul hz hw)
  · exact hadd 69 (hsub 67 (hadd 65 (hneg hxx) hyy (by decide) (by decide)) hzz (by decide)
      (by decide)) hww (by decide) (by decide)
  · exact hdifference (hmul hy hz) (hmul hx hw)
  · exact hdifference (hmul hx hz) (hmul hy hw)
  · exact hsum (hmul hy hz) (hmul hx hw)
  · exact hadd 69 (hadd 67 (hsub 65 (hneg hxx) hyy (by decide) (by decide)) hzz (by decide)
      (by decide)) hww (by decide) (by decide)

/-- The direction of a quaternion of small coordinates is a finite rotation, if there is one. -/
theorem isFinite_direction {m : Mat3 Float} (hq : q.IsBelow 32) (hm : q.direction? = some m) :
    m.isFinite = true := by
  unfold direction? at hm
  split at hm
  next => cases hm
  next hlength =>
    cases hm
    have habove : Above (-538) q.norm := above_sqrt q.isUnsigned_normSq hq.isFinite_norm hlength
    exact (isBelow_unitMatrix
      (isBelow_normalize hq.isFinite hq.isFinite_norm habove le_rfl)).isFinite

/-- The rotation of a quaternion of finite coordinates is finite, if there is one. -/
theorem isFinite_toMatrix {m : Mat3 Float} (hq : q.IsFinite) (hm : q.toMatrix? = some m) :
    m.isFinite = true := by
  obtain ⟨h, htenth⟩ := unpack_tenth
  unfold toMatrix? at hm
  dsimp only at hm
  split at hm
  next => cases hm
  next hlength =>
    simp only [Bool.or_eq_true, not_or, Bool.not_eq_true, Bool.not_eq_false'] at hlength
    have habove : Above (-52) q.norm :=
      above_of_not_lt hlength.1 (isUnsigned_root q.isUnsigned_normSq) htenth hlength.2 (by decide)
    exact isFinite_direction (isBelow_normalize hq hlength.1 habove (by decide)) hm

end Quaternion
end Fiducial
