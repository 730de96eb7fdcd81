import Fiducial.Proofs.FuserRun
import Fiducial.Proofs.JudgementCases
import Fiducial.Proofs.RigidTransforms

/-!
# Recovering the pose of the vehicle

A sensor that sees a landmark without noise sees it where the poses of the vehicle, of the sensor
and of the landmark put it.  From such an observation the pose of the vehicle is found again, and
no other matrix fits.  An estimate of the fuser holds that pose, so in exact arithmetic a noise-free
detection that is accepted publishes the pose at which the vehicle stands.
-/

namespace Fiducial

noncomputable section

open Transform

/-! ## Observations -/

/-- The pose of a landmark in the frame of the sensor, as the vehicle and the landmark stand. -/
def Transform.observation (vehicle sensor landmark : Transform ℝ) : Transform ℝ :=
  compose (compose (invert sensor) (invert vehicle)) landmark

theorem vehicleOnMap_observation {p b l : Transform ℝ} (hp : p.IsRigid) (hb : b.IsRigid)
    (hl : l.IsRigid) : vehicleOnMap l b (observation p b l) = p := by
  let vehicle : Rigid := ⟨p, hp⟩
  let sensor : Rigid := ⟨b, hb⟩
  let landmark : Rigid := ⟨l, hl⟩
  have hgroup : landmark * (sensor * (sensor⁻¹ * vehicle⁻¹ * landmark))⁻¹ = vehicle := by group
  exact congrArg Subtype.val hgroup

/-- The pose that is found is the only matrix that takes the landmark to its place on the map. -/
theorem mul_eq_landmark_iff {l b s : Transform ℝ} (hl : l.IsRigid) (hb : b.IsRigid)
    (hs : s.IsRigid) (m : Matrix (Fin 4) (Fin 4) ℝ) :
    m * b.toMatrix * s.toMatrix = l.toMatrix ↔ m = (vehicleOnMap l b s).toMatrix := by
  let sensor : Rigid := ⟨b, hb⟩
  let seen : Rigid := ⟨s, hs⟩
  let landmark : Rigid := ⟨l, hl⟩
  have hassoc : m * b.toMatrix * s.toMatrix = m * (sensor * seen).toMatrix := by
    rw [Rigid.toMatrix_mul, Matrix.mul_assoc]
    rfl
  rw [hassoc]
  exact Rigid.mul_eq_iff m (sensor * seen) landmark

/-! ## Noise-free detections -/

/-- The detection of a landmark of the map by a sensor on a vehicle at `p`, without noise. -/
structure NoiseFree (c : FuserConfig ℝ) (s : Services ℝ) (d : Detection ℝ) (p : Transform ℝ) :
    Prop where
  vehicle : p.IsRigid
  landmark : ∀ l, s.landmark d.id = some l → l.pose.IsRigid
  sensor : ∀ b, s.frames c.baseFrame d.sensor = .answer (.found b) → b.IsRigid
  seen : ∀ l b, s.landmark d.id = some l → s.frames c.baseFrame d.sensor = .answer (.found b) →
    d.pose = observation p b l.pose

theorem pose_of_noiseFree {c : FuserConfig ℝ} {s : Services ℝ} {d : Detection ℝ}
    {p : Transform ℝ} {e : Estimate ℝ} (hnoise : NoiseFree c s d p)
    (haccepted : (Judgement.of c s d).verdict = .ok (.accepted e)) : e.pose = p := by
  obtain ⟨l, b, _, hpassed, hpose⟩ := Judgement.passed_of_accepted haccepted
  have hl : l.pose.IsRigid := hnoise.landmark l hpassed.landmark
  have hb : b.IsRigid := hnoise.sensor b hpassed.found
  rw [hpose, hnoise.seen l b hpassed.landmark hpassed.found]
  exact vehicleOnMap_observation hnoise.vehicle hb hl

/-- In exact arithmetic every covariance can be scaled. -/
theorem Judgement.estimate_exact (c : FuserConfig ℝ) (d : Detection ℝ) (pose : Transform ℝ) :
    ∃ e, estimate c d pose = .ok e := by
  have hsign : ¬Real.sqrt (Gate.distanceSq d.pose) < 0 := not_lt.mpr (Real.sqrt_nonneg _)
  obtain ⟨k, hfactor⟩ : ∃ k, Covariance.factor (Real.sqrt (Gate.distanceSq d.pose)) = .ok k := by
    simp [Covariance.factor, hsign]
  simp only [estimate, Scalar.sqrt_real, hfactor]
  exact ⟨_, rfl⟩

structure RecoversPose : Prop where
  of_observation : ∀ p b l, p.IsRigid → b.IsRigid → l.IsRigid →
    vehicleOnMap l b (observation p b l) = p
  isRigid : ∀ l b s, l.IsRigid → b.IsRigid → s.IsRigid → (vehicleOnMap l b s).IsRigid
  solves : ∀ l b s, l.IsRigid → b.IsRigid → s.IsRigid →
    compose (compose (vehicleOnMap l b s) b) s = l
  unique : ∀ l b s, l.IsRigid → b.IsRigid → s.IsRigid →
    ∀ m : Matrix (Fin 4) (Fin 4) ℝ, m * b.toMatrix * s.toMatrix = l.toMatrix →
      m = (vehicleOnMap l b s).toMatrix
  published : ∀ (σ : Type) (c : FuserConfig ℝ) (s : Services ℝ) (publish : Publisher σ ℝ)
    (state : Fuser.State σ) (d : Detection ℝ) (p : Transform ℝ) (id : String) (e : Estimate ℝ),
    NoiseFree c s d p →
    (Fuser.process c s publish state d).result = .ok ⟨id, .accepted e⟩ →
      e.pose = p ∧
        publish state.published e = .ok (Fuser.process c s publish state d).state.published

theorem recovers_pose : RecoversPose := by
  constructor
  case of_observation =>
    intro p b l hp hb hl
    exact vehicleOnMap_observation hp hb hl
  case isRigid =>
    intro l b s hl hb hs
    exact hl.compose (hb.compose hs).invert
  case solves =>
    intro l b s hl hb hs
    apply toMatrix_injective
    rw [toMatrix_compose, toMatrix_compose]
    exact (mul_eq_landmark_iff hl hb hs _).mpr rfl
  case unique =>
    intro l b s hl hb hs m hm
    exact (mul_eq_landmark_iff hl hb hs m).mp hm
  case published =>
    intro σ c s publish state d p id e hnoise hreturns
    rcases Fuser.settle_returns hreturns with ⟨why, _, hout, _⟩ | ⟨e', hverdict, hout, hpublish, _⟩
    · cases hout
    · cases hout
      exact ⟨pose_of_noiseFree hnoise hverdict, hpublish⟩

/-! ## Quarter turns -/

namespace QuarterTurns

def turnX : Mat3 ℝ := ⟨⟨1, 0, 0⟩, ⟨0, 0, -1⟩, ⟨0, 1, 0⟩⟩

def turnZ : Mat3 ℝ := ⟨⟨0, -1, 0⟩, ⟨1, 0, 0⟩, ⟨0, 0, 1⟩⟩

theorem isRotation_turnX : turnX.IsRotation := by
  apply (Mat3.isRotation_iff turnX).mpr
  constructor
  · ext <;> simp [turnX, Mat3.mul, Mat3.transpose, Mat3.apply, Mat3.identity, Vec3.dot]
  · simp [turnX, Mat3.det, Vec3.dot, Vec3.cross]

theorem isRotation_turnZ : turnZ.IsRotation := by
  apply (Mat3.isRotation_iff turnZ).mpr
  constructor
  · ext <;> simp [turnZ, Mat3.mul, Mat3.transpose, Mat3.apply, Mat3.identity, Vec3.dot]
  · simp [turnZ, Mat3.det, Vec3.dot, Vec3.cross]

def vehicle : Transform ℝ := rigid turnZ ⟨3, 1, 0⟩

def sensor : Transform ℝ := rigid turnX ⟨1, 0, 4⟩

def landmark : Landmark ℝ := ⟨"5", rigid turnX ⟨3, 5, 1⟩⟩

def detection : Detection ℝ := ⟨"5", 0, "camera", observation vehicle sensor landmark.pose⟩

def services : Services ℝ :=
  ⟨fun _ => some landmark, fun _ _ => .answer (.found sensor), some ⟨0, vehicle⟩⟩

def config : FuserConfig ℝ where
  gates := ⟨["5"], 10, 1, 1⟩
  covariance := ⟨List.replicate 36 1, rfl⟩
  mapFrame := "map"
  baseFrame := "base_link"

def counter : Publisher Nat ℝ := fun n _ => .ok (n + 1)

theorem noiseFree : NoiseFree config services detection vehicle := by
  constructor
  case vehicle => exact isRigid_rigid isRotation_turnZ _
  case landmark =>
    rintro l ⟨⟩
    exact isRigid_rigid isRotation_turnX _
  case sensor =>
    rintro b ⟨⟩
    exact isRigid_rigid isRotation_turnX _
  case seen =>
    rintro l b ⟨⟩ ⟨⟩
    rfl

theorem distanceSq_detection : Gate.distanceSq detection.pose = 18 := by
  simp only [Gate.distanceSq, Vec3.normSq, detection, observation, vehicle, sensor, landmark,
    turnX, turnZ, rigid, compose, invert, rowTimes, dot4, Mat3.transpose, Mat3.neg, Mat3.apply,
    Vec3.neg, Vec3.dot, Vec3.zero]
  norm_num

theorem vehicleOnMap_detection :
    vehicleOnMap landmark.pose sensor detection.pose = vehicle :=
  vehicleOnMap_observation noiseFree.vehicle (noiseFree.sensor sensor rfl)
    (noiseFree.landmark landmark rfl)

theorem passed : Judgement.Passed config services detection landmark sensor ⟨0, vehicle⟩ := by
  have hpose := vehicleOnMap_detection
  have hknown : Judgement.Known config services detection landmark :=
    ⟨List.mem_singleton.mpr rfl, rfl⟩
  have hlimit : Gate.limitSq config.gates.distance = .ok (10 * 10) := by
    simp [Gate.limitSq, config, pow_two]
  have hwithin : Scalar.lt (10 * 10) (Gate.distanceSq detection.pose) = false := by
    rw [distanceSq_detection]
    norm_num
  have hage : Scalar.lt config.gates.time (detection.stamp - 0) = false := by
    norm_num [config, detection]
  have hapart : (vehicle.translation.sub vehicle.translation).norm = 0 := by
    simp [Vec3.norm, Vec3.normSq, Vec3.dot, Vec3.sub]
  have hnear : Scalar.lt config.gates.position
      ((vehicleOnMap landmark.pose sensor detection.pose).translation.sub
        vehicle.translation).norm = false := by
    rw [hpose, hapart]
    norm_num [config]
  exact ⟨⟨⟨⟨⟨⟨hknown, rfl⟩, 10 * 10, hlimit, hwithin⟩, rfl⟩, rfl⟩, rfl, hage⟩, rfl, rfl, hnear⟩

theorem accepts : ∃ e,
    (Fuser.process config services counter ⟨Tally.empty, 0⟩ detection).result =
      .ok ⟨"5", .accepted e⟩ := by
  have hverdict := Judgement.verdict_of_passed passed
  obtain ⟨e, hestimate⟩ := Judgement.estimate_exact config detection
    (vehicleOnMap landmark.pose sensor detection.pose)
  rw [hestimate] at hverdict
  refine ⟨e, ?_⟩
  unfold Fuser.process Fuser.settle
  rw [hverdict]
  rfl

end QuarterTurns

/-- A vehicle, a sensor and a landmark that are turned about different axes: the detection is
accepted, and the pose of the vehicle is what is published. -/
theorem recovers_pose_quarter_turns :
    ∃ e, (Fuser.process QuarterTurns.config QuarterTurns.services QuarterTurns.counter
        ⟨Tally.empty, 0⟩ QuarterTurns.detection).result = .ok ⟨"5", .accepted e⟩ ∧
      e.pose = QuarterTurns.vehicle := by
  obtain ⟨e, he⟩ := QuarterTurns.accepts
  exact ⟨e, he, (recovers_pose.published _ _ _ _ _ _ _ _ _ QuarterTurns.noiseFree he).1⟩

end

end Fiducial
