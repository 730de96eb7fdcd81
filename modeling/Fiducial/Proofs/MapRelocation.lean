import Fiducial.Proofs.FuserRun
import Fiducial.Proofs.JudgementCases
import Fiducial.Proofs.PoseRecovery
import Fiducial.Proofs.RigidTransforms

/-!
# Moving the map and the clock

A map may be drawn from another origin and along other axes, and time may be counted from another
moment.  A relocation says how: every pose on the map is moved by one rigid motion, and every stamp
is put off by one delay.  What a sensor sees and how it stands on the vehicle do not change.

In exact arithmetic a judgement moves with the map.  The range gate sees only the sensor, the gate
of time only the difference of two stamps, and the gate of position only the distance of two points
that move together.  So the decision and the reason stay the same, and an estimate differs only in
its pose and its stamp, which are moved.
-/

namespace Fiducial

noncomputable section

open Transform

/-! ## Distances under a rigid motion -/

namespace Vec3

theorem dot_apply (m : Mat3 ℝ) (u v : Vec3 ℝ) :
    (m.apply u).dot v = u.dot (m.transpose.apply v) := by
  simp only [Mat3.apply, Mat3.transpose, dot]
  ring

theorem apply_sub (m : Mat3 ℝ) (u v : Vec3 ℝ) :
    m.apply (u.sub v) = (m.apply u).sub (m.apply v) := by
  ext <;> simp only [Mat3.apply, sub, dot] <;> ring

theorem add_sub_add (u v w : Vec3 ℝ) : (u.add w).sub (v.add w) = u.sub v := by
  ext <;> simp only [add, sub] <;> ring

theorem norm_apply {m : Mat3 ℝ} (hm : m.IsRotation) (v : Vec3 ℝ) : (m.apply v).norm = v.norm := by
  have hsquare : (m.apply v).normSq = v.normSq := by
    calc
      (m.apply v).dot (m.apply v) = v.dot (m.transpose.apply (m.apply v)) := dot_apply m v _
      _ = v.dot ((m.transpose.mul m).apply v) := by rw [Mat3.apply_mul]
      _ = v.dot v := by rw [hm.transpose_mul, Mat3.apply_identity]
  unfold norm
  rw [hsquare]

end Vec3

namespace Transform

/-- The image of a point. -/
def place (t : Transform ℝ) (p : Vec3 ℝ) : Vec3 ℝ := (t.rotation.apply p).add t.translation

theorem norm_place_sub_place {t : Transform ℝ} (ht : t.IsRigid) (p q : Vec3 ℝ) :
    ((t.place p).sub (t.place q)).norm = (p.sub q).norm := by
  unfold place
  rw [Vec3.add_sub_add, ← Vec3.apply_sub, Vec3.norm_apply ht.rotation]

theorem translation_compose (a : Transform ℝ) {b : Transform ℝ} (hb : b.corner = 1) :
    (compose a b).translation = a.place b.translation := by
  ext <;> simp only [compose, place, dot4, Mat3.apply, Vec3.add, hb, mul_one]

theorem vehicleOnMap_compose (g l b s : Transform ℝ) :
    vehicleOnMap (compose g l) b s = compose g (vehicleOnMap l b s) :=
  compose_assoc g l (invert (compose b s))

theorem corner_vehicleOnMap {l : Transform ℝ} (hl : l.IsRigid) (b s : Transform ℝ) :
    (vehicleOnMap l b s).corner = 1 := by
  simp [vehicleOnMap, compose, invert, rigid, dot4, hl.bottom, hl.corner, Vec3.dot, Vec3.zero]

end Transform

/-! ## Relocations -/

/-- A rigid motion of the map together with a shift of the origin of time. -/
structure Relocation where
  motion : Rigid
  delay : ℝ

namespace Relocation

variable (m : Relocation)

def landmark (l : Landmark ℝ) : Landmark ℝ := { l with pose := m.motion.1.compose l.pose }

def reference (r : ReferencePose ℝ) : ReferencePose ℝ :=
  ⟨r.stamp + m.delay, m.motion.1.compose r.pose⟩

def detection (d : Detection ℝ) : Detection ℝ := { d with stamp := d.stamp + m.delay }

def services (s : Services ℝ) : Services ℝ where
  landmark id := (s.landmark id).map m.landmark
  frames := s.frames
  reference := s.reference.map m.reference

def estimate (e : Estimate ℝ) : Estimate ℝ :=
  { e with stamp := e.stamp + m.delay, pose := m.motion.1.compose e.pose }

/-- The numbers that a rejection carries, moved with the map and the clock. -/
def rejection : Rejection ℝ → Rejection ℝ
  | .stale tolerance reference detection =>
    .stale tolerance (reference + m.delay) (detection + m.delay)
  | .apart tolerance pose reference =>
    .apart tolerance (m.motion.1.place pose) (m.motion.1.place reference)
  | why => why

def verdict : Verdict ℝ → Verdict ℝ
  | .accepted e => .accepted (m.estimate e)
  | .rejected why => .rejected (m.rejection why)

def judgement (j : Judgement ℝ) : Judgement ℝ := { j with verdict := j.verdict.map m.verdict }

@[simp] theorem reason_rejection (why : Rejection ℝ) : (m.rejection why).reason = why.reason := by
  cases why <;> rfl

@[simp] theorem isAccepted_verdict (v : Verdict ℝ) : (m.verdict v).isAccepted = v.isAccepted := by
  cases v <;> rfl

theorem judgement_reject (why : Rejection ℝ) :
    m.judgement (.reject why) = .reject (m.rejection why) := rfl

theorem judgement_after {β : Type} (asked : Asked β) (next : β → Judgement ℝ) :
    m.judgement (.after asked next) = .after asked fun b => m.judgement (next b) := rfl

/-- Landmarks and a reference pose that are rigid, and a frame service that gives transforms.  These
and the detections may be any. -/
structure Rigidly (s : Services ℝ) : Prop where
  landmark : ∀ id l, s.landmark id = some l → l.pose.IsRigid
  frames : GivesTransforms s.frames
  reference : ∀ r, s.reference = some r → r.pose.IsRigid

/-! ## The gates -/

theorem temporal_reference (tolerance stamp : ℝ) (r : ReferencePose ℝ) :
    Gate.temporal tolerance (stamp + m.delay) (m.reference r) =
      (Gate.temporal tolerance stamp r).map m.rejection := by
  have hage : stamp + m.delay - (m.reference r).stamp = stamp - r.stamp := by
    unfold reference
    ring
  unfold Gate.temporal
  rw [hage]
  dsimp only
  split <;> rfl

theorem spatial_reference {r : ReferencePose ℝ} (hr : r.pose.IsRigid) {pose : Transform ℝ}
    (hpose : pose.corner = 1) (tolerance : ℝ) :
    Gate.spatial tolerance (m.motion.1.compose pose) (m.reference r) =
      (Gate.spatial tolerance pose r).map m.rejection := by
  have hfound : (m.motion.1.compose pose).translation = m.motion.1.place pose.translation :=
    translation_compose _ hpose
  have hthought : (m.reference r).position = m.motion.1.place r.position :=
    translation_compose _ hr.corner
  have hfinite : ∀ t : Transform ℝ, t.isFinite = true := fun t => by
    simp [isFinite, Mat3.isFinite, Vec3.isFinite]
  unfold Gate.spatial Gate.spatialAt
  rw [hfound, hthought, norm_place_sub_place m.motion.2, hfinite, hfinite]
  dsimp only
  split
  · rfl
  · split <;> rfl

theorem rejection_of_range {distance distanceSq : ℝ} {why : Rejection ℝ}
    (hrange : Gate.range distance distanceSq = .ok (some why)) : m.rejection why = why := by
  simp only [Gate.range, Gate.limitSq, Scalar.isFinite_real, Scalar.power_real] at hrange
  split at hrange
  · cases hrange
    rfl
  · split at hrange <;> cases hrange
    rfl

theorem rejection_of_transform {answer : FrameAnswer ℝ} {base sensor : String}
    {why : Rejection ℝ} (htransform : Gate.transform answer base sensor = .error why) :
    m.rejection why = why := by
  cases answer <;> cases htransform <;> rfl

/-! ## Judgements -/

variable (c : FuserConfig ℝ) (d : Detection ℝ)

theorem estimate_detection (pose : Transform ℝ) :
    Judgement.estimate c (m.detection d) (m.motion.1.compose pose) =
      (Judgement.estimate c d pose).map m.estimate := by
  unfold Judgement.estimate
  dsimp only [detection]
  split <;> rfl

theorem compareWith_detection {pose : Transform ℝ} (hpose : pose.corner = 1)
    {reference : Option (ReferencePose ℝ)} (href : ∀ r, reference = some r → r.pose.IsRigid) :
    Judgement.compareWith c (m.detection d) (m.motion.1.compose pose)
        (reference.map m.reference) =
      (Judgement.compareWith c d pose reference).map m.verdict := by
  cases reference with
  | none => rfl
  | some r =>
      have htemporal := m.temporal_reference c.gates.time d.stamp r
      have hspatial := m.spatial_reference (href r rfl) hpose c.gates.position
      have hstamp : (m.detection d).stamp = d.stamp + m.delay := rfl
      simp only [Option.map_some, Judgement.compareWith, hstamp, htemporal, hspatial]
      cases Gate.temporal c.gates.time d.stamp r with
      | some why => rfl
      | none =>
          cases Gate.spatial c.gates.position pose r with
          | some why => rfl
          | none =>
              simp only [Option.map_none, estimate_detection]
              cases Judgement.estimate c d pose <;> rfl

variable {s : Services ℝ}

theorem place_detection (hs : Rigidly s) {l : Landmark ℝ} (hl : l.pose.IsRigid)
    (reply : FrameReply ℝ) :
    Judgement.place c (m.services s) (m.detection d) (m.landmark l) reply =
      m.judgement (Judgement.place c s d l reply) := by
  cases reply with
  | misshapen shape hshape => rfl
  | answer answer =>
      have hsensor : (m.detection d).sensor = d.sensor := rfl
      simp only [Judgement.place, hsensor]
      cases htransform : Gate.transform answer c.baseFrame d.sensor with
      | error why => simp only [judgement_reject, m.rejection_of_transform htransform]
      | ok b =>
          have hcompare := m.compareWith_detection c d
            (corner_vehicleOnMap hl b d.pose) hs.reference
          rw [← vehicleOnMap_compose] at hcompare
          simp only [judgement, Judgement.settled, Judgement.after, Services.askReference]
          rw [← hcompare]
          rfl

theorem locate_detection (hs : Rigidly s) {l : Landmark ℝ} (hl : l.pose.IsRigid) :
    Judgement.locate c (m.services s) (m.detection d) (m.landmark l) =
      m.judgement (Judgement.locate c s d l) := by
  have hseen : (m.detection d).pose = d.pose := rfl
  have hsensor : (m.detection d).sensor = d.sensor := rfl
  have hask : (m.services s).askFrames c.baseFrame d.sensor = s.askFrames c.baseFrame d.sensor :=
    rfl
  unfold Judgement.locate
  rw [hseen, hsensor, hask]
  cases hrange : Gate.range c.gates.distance (Gate.distanceSq d.pose) with
  | error f => rfl
  | ok r =>
      cases r with
      | some why => simp only [judgement_reject, m.rejection_of_range hrange]
      | none =>
          simp only [judgement_after]
          congr 1
          funext reply
          exact m.place_detection c d hs hl reply

/-- A judgement moves with the map and the clock. -/
theorem of_detection (hs : Rigidly s) :
    Judgement.of c (m.services s) (m.detection d) = m.judgement (Judgement.of c s d) := by
  have hid : (m.detection d).id = d.id := rfl
  unfold Judgement.of Gate.whitelist Judgement.after Services.askLandmark
  rw [hid]
  by_cases hlisted : c.gates.whitelist.contains d.id = true
  · have hlandmark : (m.services s).landmark d.id = (s.landmark d.id).map m.landmark := rfl
    simp only [hlisted, if_true, hlandmark]
    cases hl : s.landmark d.id with
    | none => rfl
    | some l =>
        simp only [Option.map_some, m.locate_detection c d hs (hs.landmark d.id l hl)]
        rfl
  · simp only [hlisted]
    rfl

end Relocation

/-! ## Decisions -/

/-- In exact arithmetic every detection gets a verdict, unless it is in range and the frame service
gives a matrix that is no transform. -/
theorem Judgement.verdict_exact (c : FuserConfig ℝ) (s : Services ℝ) (d : Detection ℝ) :
    (∃ v, (Judgement.of c s d).verdict = .ok v) ∨
      ∃ l shape hshape, InRange c s d l ∧
        s.frames c.baseFrame d.sensor = .misshapen shape hshape := by
  have hjudged := judged_of c s d
  cases hjudgement : Judgement.of c s d with
  | mk verdict queries log =>
      rw [hjudgement] at hjudged
      cases hjudged with
      | unbounded l hmeasured hlimit => cases hlimit
      | misshapen l hrange shape hshape hreply =>
          exact .inr ⟨l, shape, hshape, hrange, hreply⟩
      | passed l t p hpassed =>
          obtain ⟨e, hestimate⟩ := estimate_exact c d (vehicleOnMap l.pose t d.pose)
          exact .inl ⟨.accepted e, by simp only [hestimate, Except.map]⟩
      | _ => exact .inl ⟨_, rfl⟩

theorem Judgement.verdict_of_givesTransforms (c : FuserConfig ℝ) {s : Services ℝ}
    (hframes : GivesTransforms s.frames) (d : Detection ℝ) :
    ∃ v, (Judgement.of c s d).verdict = .ok v := by
  rcases verdict_exact c s d with hverdict | ⟨l, shape, hshape, -, hreply⟩
  · exact hverdict
  · obtain ⟨a, ha⟩ := hframes c.baseFrame d.sensor
    rw [hreply] at ha
    cases ha

/-- The outcome of a detection before and after a relocation. -/
structure SameDecision (m : Relocation) (o o' : Outcome ℝ) : Prop where
  id_eq : o'.id = o.id
  accepted_iff : o'.verdict.isAccepted = o.verdict.isAccepted
  reason_eq : ∀ why why', o.verdict = .rejected why → o'.verdict = .rejected why' →
    why'.reason = why.reason
  distance_eq : ∀ e e', o.verdict = .accepted e → o'.verdict = .accepted e' →
    e'.distance = e.distance ∧ e'.scale = e.scale ∧ e'.covariance = e.covariance
  stamp_eq : ∀ e e', o.verdict = .accepted e → o'.verdict = .accepted e' →
    e'.stamp = e.stamp + m.delay
  pose_eq : ∀ e e', o.verdict = .accepted e → o'.verdict = .accepted e' →
    e'.pose = m.motion.1.compose e.pose

theorem sameDecision_verdict (m : Relocation) (id : String) (v : Verdict ℝ) :
    SameDecision m ⟨id, v⟩ ⟨id, m.verdict v⟩ := by
  constructor
  case id_eq => rfl
  case accepted_iff => exact m.isAccepted_verdict v
  case reason_eq =>
    rintro why why' rfl ⟨⟩
    exact m.reason_rejection why
  case distance_eq =>
    rintro e e' rfl ⟨⟩
    exact ⟨rfl, rfl, rfl⟩
  case stamp_eq =>
    rintro e e' rfl ⟨⟩
    rfl
  case pose_eq =>
    rintro e e' rfl ⟨⟩
    rfl

namespace Fuser

theorem process_relocated (m : Relocation) {s : Services ℝ} (hs : Relocation.Rigidly s)
    (c : FuserConfig ℝ) (d : Detection ℝ) {σ τ : Type} {publish : Publisher σ ℝ}
    {publish' : Publisher τ ℝ} (hpublish : publish.NeverRefuses)
    (hpublish' : publish'.NeverRefuses) (state : State σ) (state' : State τ) :
    ∃ o o', (process c s publish state d).result = .ok o ∧
      (process c (m.services s) publish' state' (m.detection d)).result = .ok o' ∧
      SameDecision m o o' := by
  obtain ⟨v, hverdict⟩ := Judgement.verdict_of_givesTransforms c hs.frames d
  have houtcome : outcomeOf c s d = .ok ⟨d.id, v⟩ := by
    unfold outcomeOf
    rw [hverdict]
    rfl
  have houtcome' : outcomeOf c (m.services s) (m.detection d) = .ok ⟨d.id, m.verdict v⟩ := by
    unfold outcomeOf
    rw [m.of_detection c d hs]
    simp only [Relocation.judgement, hverdict]
    rfl
  exact ⟨⟨d.id, v⟩, ⟨d.id, m.verdict v⟩, process_of_outcomeOf hpublish state houtcome,
    process_of_outcomeOf hpublish' state' houtcome', sameDecision_verdict m d.id v⟩

end Fuser

/-! ## A turned and shifted map -/

namespace QuarterTurns

/-- A quarter turn about the vertical axis, a shift, and seven seconds. -/
def relocation : Relocation := ⟨⟨rigid turnZ ⟨7, -1, 1⟩, isRigid_rigid isRotation_turnZ _⟩, 7⟩

theorem rigidly_services : Relocation.Rigidly services := by
  constructor
  case landmark =>
    rintro id l ⟨⟩
    exact isRigid_rigid isRotation_turnX _
  case frames => exact fun _ _ => ⟨_, rfl⟩
  case reference =>
    rintro r ⟨⟩
    exact isRigid_rigid isRotation_turnZ _

end QuarterTurns

namespace Fuser

open QuarterTurns

theorem process_relocated_quarter_turns :
    ∃ e e', (process config services counter ⟨Tally.empty, 0⟩ detection).result =
        .ok ⟨"5", .accepted e⟩ ∧
      (process config (relocation.services services) counter ⟨Tally.empty, 0⟩
        (relocation.detection detection)).result = .ok ⟨"5", .accepted e'⟩ ∧
      e'.stamp = e.stamp + 7 ∧ e'.pose = (rigid turnZ ⟨7, -1, 1⟩).compose e.pose := by
  have hcounter : counter.NeverRefuses := fun n _ => ⟨n + 1, rfl⟩
  obtain ⟨e, haccepts⟩ := accepts
  obtain ⟨o, ⟨id', v'⟩, hfirst, hsecond, hsame⟩ := process_relocated relocation rigidly_services
    config detection hcounter hcounter ⟨Tally.empty, 0⟩ ⟨Tally.empty, 0⟩
  have ho : o = ⟨"5", .accepted e⟩ := by
    rw [haccepts] at hfirst
    exact (Except.ok.inj hfirst).symm
  rw [ho] at hsame
  have hid : id' = "5" := hsame.id_eq
  have haccepted : v'.isAccepted = true := hsame.accepted_iff
  cases v' with
  | rejected why => cases haccepted
  | accepted e' =>
      rw [hid] at hsecond
      exact ⟨e, e', haccepts, hsecond, hsame.stamp_eq e e' rfl rfl, hsame.pose_eq e e' rfl rfl⟩

end Fuser

end

end Fiducial
