import Mathlib
import Fiducial.Proofs.PoseRecovery
import Fiducial.Proofs.UnitQuaternions
import Fiducial.Sample.Scene

/-!
# The scene of the sample in exact arithmetic

The camera of the sample looks forward, and what it sees of a landmark is an observation without
noise.  A sight is that observation with its rotation written as a rotation vector; where the vector
gives the rotation back, the pose of the vehicle follows from any sight of any landmark.  The
rotations that the camera sees are far from the identity and from half a turn, so the rotation
vectors of this library do give them back.
-/

namespace Fiducial

noncomputable section

open Transform

namespace Sample

/-! ## The camera -/

theorem value_half : Binary.value 0.5 = 1 / 2 := by
  have hdecode : Binary.decode 0.5 = .finite false (2 ^ 52) (-53) := by decide +kernel
  rw [Binary.value_of_decode hdecode]
  norm_num

theorem value_neg_half : Binary.value (-0.5) = -(1 / 2) := by
  have hdecode : Binary.decode (-0.5) = .finite true (2 ^ 52) (-53) := by decide +kernel
  simp only [Binary.value, hdecode, if_true]
  norm_num

/-- The quaternion of the camera as real numbers. -/
def cameraTurn : Quaternion ℝ := cameraRotation.map Scalar.ofFloat

theorem cameraTurn_eq : cameraTurn = ⟨-(1 / 2), 1 / 2, -(1 / 2), 1 / 2⟩ := by
  have hvalues : cameraTurn = ⟨Binary.value (-0.5), Binary.value 0.5, Binary.value (-0.5),
      Binary.value 0.5⟩ := rfl
  rw [hvalues, value_half, value_neg_half]

theorem norm_cameraTurn : cameraTurn.norm = 1 := by
  rw [cameraTurn_eq, Quaternion.norm, Scalar.sqrt_real]
  norm_num

theorem normalize_cameraTurn : cameraTurn.normalize.normalize = cameraTurn := by
  rw [Quaternion.normalize_of_unit norm_cameraTurn, Quaternion.normalize_of_unit norm_cameraTurn]

theorem toMatrix_cameraTurn :
    cameraTurn.toMatrix? = some cameraTurn.normalize.normalize.unitMatrix := by
  rw [normalize_cameraTurn]
  exact Quaternion.toMatrix_of_unit norm_cameraTurn

/-- The z axis of the camera points forward, and its x axis to the right. -/
theorem rotation_cameraOnVehicle :
    (cameraOnVehicle : Transform ℝ).rotation = ⟨⟨0, 0, 1⟩, ⟨-1, 0, 0⟩, ⟨0, -1, 0⟩⟩ := by
  have hrotation : (cameraOnVehicle : Transform ℝ).rotation =
      cameraTurn.normalize.normalize.unitMatrix := rfl
  rw [hrotation, normalize_cameraTurn, cameraTurn_eq]
  simp only [Quaternion.unitMatrix, Scalar.ofNat_real]
  norm_num

theorem isRigid_cameraOnVehicle : (cameraOnVehicle : Transform ℝ).IsRigid :=
  isRigid_rigid (Quaternion.isRotation_toMatrix toMatrix_cameraTurn) _

/-! ## Sights -/

theorem isRigid_landmark (p : Place) : (p.landmark : Landmark ℝ).pose.IsRigid :=
  isRigid_rigid (Rotation.isRotation_ofVector _) _

variable {d : Drive ℝ}

theorem isRigid_vehicleAt (d : Drive ℝ) (time : ℝ) : (d.vehicleAt time).IsRigid :=
  isRigid_rigid Mat3.isRotation_identity _

theorem isRigid_seen (d : Drive ℝ) (time : ℝ) (p : Place) :
    (Drive.seen (d.vehicleAt time) p.landmark).IsRigid :=
  (isRigid_cameraOnVehicle.invert.compose (isRigid_vehicleAt d time).invert).compose
    (isRigid_landmark p)

/-- The rotation vectors of a drive give back the rotations that the camera sees. -/
def Drive.TurnsBack (d : Drive ℝ) : Prop :=
  ∀ time, ∀ p ∈ places, Rotation.ofVector
    (d.toVector (Drive.seen (d.vehicleAt time) p.landmark).rotation) =
      (Drive.seen (d.vehicleAt time) p.landmark).rotation

theorem ofVectors_seen (hback : d.TurnsBack) (time : ℝ) {p : Place} (hp : p ∈ places) :
    ofVectors (d.toVector (Drive.seen (d.vehicleAt time) p.landmark).rotation)
        (Drive.seen (d.vehicleAt time) p.landmark).translation =
      Drive.seen (d.vehicleAt time) p.landmark := by
  rw [ofVectors, hback time p hp]
  exact (isRigid_seen d time p).eq_rigid.symm

/-- From the sight of a landmark follows the pose of the vehicle. -/
theorem vehicleOnMap_sight (hback : d.TurnsBack) (time : ℝ) {s : Sight ℝ}
    (hs : s ∈ d.sights (d.vehicleAt time)) :
    ∃ p ∈ places, s.id = p.id ∧ vehicleOnMap (p.landmark : Landmark ℝ).pose cameraOnVehicle
      (ofVectors s.rotation s.position) = d.vehicleAt time := by
  obtain ⟨p, hvisible, rfl⟩ := List.mem_map.mp hs
  have hp : p ∈ places := (List.mem_filter.mp hvisible).1
  refine ⟨p, hp, rfl, ?_⟩
  dsimp only
  rw [ofVectors_seen hback time hp]
  exact vehicleOnMap_observation (isRigid_vehicleAt d time) isRigid_cameraOnVehicle
    (isRigid_landmark p)

/-! ## Rotation vectors of sights -/

/-- The rotation about the vertical axis by the angle with cosine `c` and sine `s`. -/
def turned (c s : ℝ) : Mat3 ℝ := ⟨⟨c, -s, 0⟩, ⟨s, c, 0⟩, ⟨0, 0, 1⟩⟩

theorem ofVector_vertical {angle : ℝ} (hlong : Rotation.precision ≤ angle) :
    Rotation.ofVector ⟨0, 0, angle⟩ = turned (Real.cos angle) (Real.sin angle) := by
  have hpos : 0 < angle := lt_of_lt_of_le Rotation.precision_pos hlong
  have hnorm : (⟨0, 0, angle⟩ : Vec3 ℝ).norm = angle := by
    simp [Vec3.norm, Vec3.normSq, Vec3.dot, Real.sqrt_mul_self hpos.le]
  have hshort : ¬Scalar.lt (⟨0, 0, angle⟩ : Vec3 ℝ).norm Rotation.precision = true := by
    rw [hnorm, Scalar.lt_real, decide_eq_true_eq]
    exact not_lt.mpr hlong
  have habout : Rotation.ofVector ⟨0, 0, angle⟩ =
      Rotation.about ((⟨0, 0, angle⟩ : Vec3 ℝ).scale (1 / (⟨0, 0, angle⟩ : Vec3 ℝ).norm))
        (Real.cos (⟨0, 0, angle⟩ : Vec3 ℝ).norm) (Real.sin (⟨0, 0, angle⟩ : Vec3 ℝ).norm) :=
    if_neg hshort
  have hdirection : (⟨0, 0, angle⟩ : Vec3 ℝ).scale (1 / angle) = ⟨0, 0, 1⟩ := by
    ext <;> simp [Vec3.scale, hpos.ne']
  rw [habout, hnorm, hdirection]
  ext <;>
    simp [Rotation.about, turned, Mat3.add, Mat3.scale, Mat3.identity, Mat3.outer, Mat3.skew,
      Vec3.add, Vec3.scale]

theorem turned_zero : turned 1 0 = Mat3.identity := by
  ext <;> simp [turned, Mat3.identity]

theorem ofVector_noTurn :
    Rotation.ofVector (noTurn.map Scalar.ofFloat : Vec3 ℝ) = Mat3.identity := by
  have hzero : (noTurn.map Scalar.ofFloat : Vec3 ℝ) = Vec3.zero := by
    have hvalue : Binary.value 0.0 = 0 := Binary.value_zero
    simp only [noTurn, Vec3.map]
    exact Vec3.ext hvalue hvalue hvalue
  rw [hzero, Rotation.ofVector_zero]

/-- The angle by which one of the landmarks is turned. -/
theorem value_turn : Rotation.precision ≤ Binary.value 0.3 ∧ Binary.value 0.3 ≤ 1 / 2 := by
  have hdecode : Binary.decode 0.3 = .finite false 5404319552844595 (-54) := by decide +kernel
  rw [Binary.value_of_decode hdecode]
  constructor <;> norm_num [Rotation.precision]

/-- Every landmark of the scene is turned about the vertical axis, by less than half a radian. -/
theorem rotation_landmark {p : Place} (hp : p ∈ places) :
    ∃ c s : ℝ, c * c + s * s = 1 ∧ s ≤ 1 / 2 ∧
      (p.landmark : Landmark ℝ).pose.rotation = turned c s := by
  obtain ⟨hlong, hsmall⟩ := value_turn
  have hzero : Binary.value 0.0 = 0 := Binary.value_zero
  have hpos : 0 ≤ Binary.value 0.3 := (lt_of_lt_of_le Rotation.precision_pos hlong).le
  have hstraight : ∃ c s : ℝ, c * c + s * s = 1 ∧ s ≤ 1 / 2 ∧
      Rotation.ofVector (noTurn.map Scalar.ofFloat : Vec3 ℝ) = turned c s :=
    ⟨1, 0, by norm_num, by norm_num, ofVector_noTurn.trans turned_zero.symm⟩
  simp only [places, List.mem_cons, List.not_mem_nil, or_false] at hp
  rcases hp with rfl | rfl | rfl | rfl
  case inr.inr.inl =>
    refine ⟨Real.cos (Binary.value 0.3), Real.sin (Binary.value 0.3), ?_,
      (Real.sin_le hpos).trans hsmall, ?_⟩
    · rw [← sq, ← sq, Real.cos_sq_add_sin_sq]
    · rw [← ofVector_vertical hlong]
      exact congrArg Rotation.ofVector (Vec3.ext hzero hzero rfl)
  all_goals exact hstraight

/-- The camera sees no landmark close to its own orientation or to half a turn from it. -/
theorem isTurned_seen {p : Place} (hp : p ∈ places) (d : Drive ℝ) (time : ℝ) :
    Rotation.IsTurned (Drive.seen (d.vehicleAt time) p.landmark).rotation := by
  obtain ⟨c, s, hcircle, hs, hrotation⟩ := rotation_landmark hp
  have hseen : (Drive.seen (d.vehicleAt time) p.landmark).rotation =
      ⟨⟨-s, -c, 0⟩, ⟨0, 0, -1⟩, ⟨c, -s, 0⟩⟩ := by
    rw [Drive.seen, isRigid_cameraOnVehicle.eq_rigid, (isRigid_landmark p).eq_rigid, hrotation,
      rotation_cameraOnVehicle, Drive.vehicleAt, invert_rigid, invert_rigid, compose_rigid,
      compose_rigid]
    ext <;>
      simp [rigid, turned, Mat3.mul, Mat3.transpose, Mat3.apply, Mat3.identity, Vec3.dot]
  have hnorm : 1 ≤ (Rotation.skewPart ⟨⟨-s, -c, 0⟩, ⟨0, 0, -1⟩, ⟨c, -s, 0⟩⟩).norm := by
    rw [Vec3.norm, Scalar.sqrt_real, Real.one_le_sqrt]
    simp only [Rotation.skewPart, Vec3.normSq, Vec3.dot]
    nlinarith
  have hlong : (Scalar.tenth 5 : ℝ) ≤ 1 / 2 := by norm_num [Scalar.tenth]
  rw [hseen, Rotation.IsTurned, Rotation.sine_eq]
  linarith

/-- The rotation vectors of the library give back what the camera sees. -/
theorem turnsBack_toVector (speed period : ℝ) (noise : Nat → ℝ × ℝ) :
    Drive.TurnsBack ⟨speed, period, noise, Rotation.toVector⟩ := by
  intro time p hp
  exact Rotation.ofVector_toVector (isRigid_seen _ time p).rotation (isTurned_seen hp _ time)

end Sample

end

end Fiducial
