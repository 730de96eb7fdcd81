import Fiducial.Fuser.Basic
import Mathlib.Tactic

/-!
# What a judgement can be

A detection that comes to a gate has passed the gates before it.  The stages below say what is
known at each of them, and `Judged` lists the ends that a judgement can have, each with the stage
that was reached and with the services that were asked.  Every statement about the verdict, the
queries or the faults of a fuser is a case analysis over this list.
-/

namespace Fiducial

/-- A frame service that never gives a matrix without the shape of a transform. -/
def GivesTransforms {α : Type} (frames : String → String → FrameReply α) : Prop :=
  ∀ target source, ∃ a, frames target source = .answer a

namespace Judgement

variable {α : Type} [Scalar α]

/-! ## The gates that look at the reference pose -/

def Inconsistent (c : FuserConfig α) (pose : Transform α) (r : ReferencePose α) : Prop :=
  pose.isFinite = false ∨
    Scalar.isFinite (pose.translation.sub r.position).norm = false ∨
    Scalar.lt c.gates.position (pose.translation.sub r.position).norm = true

theorem temporal_eq_none_iff (tolerance stamp : α) (r : ReferencePose α) :
    Gate.temporal tolerance stamp r = none ↔
      Scalar.isFinite (stamp - r.stamp) = true ∧
        Scalar.lt tolerance (stamp - r.stamp) = false := by
  simp [Gate.temporal]

theorem temporal_eq_some {tolerance stamp : α} {r : ReferencePose α} {why : Rejection α}
    (hsome : Gate.temporal tolerance stamp r = some why) :
    why.reason = .staleReference ∧
      (Scalar.isFinite (stamp - r.stamp) = false ∨
        Scalar.lt tolerance (stamp - r.stamp) = true) := by
  unfold Gate.temporal at hsome
  dsimp only at hsome
  split at hsome
  next hstale =>
    cases hsome
    exact ⟨rfl, by simpa using hstale⟩
  next => cases hsome

theorem spatial_eq_none_iff (tolerance : α) (pose : Transform α) (r : ReferencePose α) :
    Gate.spatial tolerance pose r = none ↔
      pose.isFinite = true ∧
        Scalar.isFinite (pose.translation.sub r.position).norm = true ∧
        Scalar.lt tolerance (pose.translation.sub r.position).norm = false := by
  cases hfinite : pose.isFinite <;> simp [Gate.spatial, Gate.spatialAt, hfinite]

theorem spatial_eq_some {c : FuserConfig α} {pose : Transform α} {r : ReferencePose α}
    {why : Rejection α} (hsome : Gate.spatial c.gates.position pose r = some why) :
    why.reason = .inconsistentPosition ∧ Inconsistent c pose r := by
  unfold Gate.spatial Gate.spatialAt at hsome
  dsimp only at hsome
  split at hsome
  next hfinite =>
    cases hsome
    exact ⟨rfl, .inl (by simpa using hfinite)⟩
  next =>
    split at hsome
    next hapart =>
      cases hsome
      exact ⟨rfl, .inr (by simpa using hapart)⟩
    next => cases hsome

variable [Numerics α]

/-! ## Stages -/

section Stages

variable (c : FuserConfig α) (s : Services α) (d : Detection α)

structure Known (l : Landmark α) : Prop where
  listed : d.id ∈ c.gates.whitelist
  landmark : s.landmark d.id = some l

structure Measured (l : Landmark α) : Prop extends Known c s d l where
  finite : Scalar.isFinite (Gate.distanceSq d.pose) = true

structure InRange (l : Landmark α) : Prop extends Measured c s d l where
  limit : ∃ limit, Gate.limitSq c.gates.distance = .ok limit ∧
    Scalar.lt limit (Gate.distanceSq d.pose) = false

structure Placed (l : Landmark α) (t : Transform α) : Prop extends InRange c s d l where
  found : s.frames c.baseFrame d.sensor = .answer (.found t)

structure Referenced (l : Landmark α) (t : Transform α) (r : ReferencePose α) : Prop
    extends Placed c s d l t where
  reference : s.reference = some r

structure Fresh (l : Landmark α) (t : Transform α) (r : ReferencePose α) : Prop
    extends Referenced c s d l t r where
  ageFinite : Scalar.isFinite (d.stamp - r.stamp) = true
  ageWithin : Scalar.lt c.gates.time (d.stamp - r.stamp) = false

/-- The pose found agrees with the reference pose, so every gate is passed. -/
structure Passed (l : Landmark α) (t : Transform α) (r : ReferencePose α) : Prop
    extends Fresh c s d l t r where
  poseFinite : (Transform.vehicleOnMap l.pose t d.pose).isFinite = true
  apartFinite : Scalar.isFinite
    ((Transform.vehicleOnMap l.pose t d.pose).translation.sub r.position).norm = true
  apartWithin : Scalar.lt c.gates.position
    ((Transform.vehicleOnMap l.pose t d.pose).translation.sub r.position).norm = false

end Stages

/-! ## Ends -/

/-- The services asked up to the registry, the frame service and the reference pose. -/
def askedRegistry (d : Detection α) : List Query := [.landmark d.id]

def askedFrames (c : FuserConfig α) (d : Detection α) : List Query :=
  askedRegistry d ++ [.frames c.baseFrame d.sensor]

def askedReference (c : FuserConfig α) (d : Detection α) : List Query :=
  askedFrames c d ++ [.reference]

/-- The ends that a judgement can have. -/
inductive Judged (c : FuserConfig α) (s : Services α) (d : Detection α) : Judgement α → Prop
  | unlisted (r : Rejection α) (hreason : r.reason = .notWhitelisted)
      (hlisted : d.id ∉ c.gates.whitelist) :
      Judged c s d ⟨.ok (.rejected r), [], []⟩
  | unknown (r : Rejection α) (hreason : r.reason = .notInRegistry)
      (hlisted : d.id ∈ c.gates.whitelist) (hlandmark : s.landmark d.id = none) :
      Judged c s d ⟨.ok (.rejected r), askedRegistry d, []⟩
  | unmeasured (r : Rejection α) (hreason : r.reason = .outOfRange) (l : Landmark α)
      (hknown : Known c s d l) (hfinite : Scalar.isFinite (Gate.distanceSq d.pose) = false) :
      Judged c s d ⟨.ok (.rejected r), askedRegistry d, []⟩
  | unbounded (l : Landmark α) (hmeasured : Measured c s d l)
      (hlimit : Scalar.power? c.gates.distance 2 = none) :
      Judged c s d ⟨.error .overflow, askedRegistry d, []⟩
  | far (r : Rejection α) (hreason : r.reason = .outOfRange) (l : Landmark α)
      (hmeasured : Measured c s d l) (limit : α)
      (hlimit : Gate.limitSq c.gates.distance = .ok limit)
      (hfar : Scalar.lt limit (Gate.distanceSq d.pose) = true) :
      Judged c s d ⟨.ok (.rejected r), askedRegistry d, []⟩
  | unplaced (r : Rejection α) (hreason : r.reason = .transformUnavailable) (l : Landmark α)
      (hrange : InRange c s d l) (answer : FrameAnswer α)
      (hanswer : s.frames c.baseFrame d.sensor = .answer answer) (hfound : ∀ t, answer ≠ .found t) :
      Judged c s d ⟨.ok (.rejected r), askedFrames c d,
        Services.frameLog c.baseFrame d.sensor (.answer answer)⟩
  | misshapen (l : Landmark α) (hrange : InRange c s d l) (shape : List Nat)
      (hshape : shape ≠ [4, 4])
      (hreply : s.frames c.baseFrame d.sensor = .misshapen shape hshape) :
      Judged c s d ⟨.error (.notTransforms shape [4, 4]), askedFrames c d, []⟩
  | unreferenced (r : Rejection α) (hreason : r.reason = .noReferencePose) (l : Landmark α)
      (t : Transform α) (hplaced : Placed c s d l t) (hreference : s.reference = none) :
      Judged c s d ⟨.ok (.rejected r), askedReference c d, []⟩
  | stale (r : Rejection α) (hreason : r.reason = .staleReference) (l : Landmark α)
      (t : Transform α) (p : ReferencePose α) (hreferenced : Referenced c s d l t p)
      (hstale : Scalar.isFinite (d.stamp - p.stamp) = false ∨
        Scalar.lt c.gates.time (d.stamp - p.stamp) = true) :
      Judged c s d ⟨.ok (.rejected r), askedReference c d, []⟩
  | inconsistent (r : Rejection α) (hreason : r.reason = .inconsistentPosition) (l : Landmark α)
      (t : Transform α) (p : ReferencePose α) (hfresh : Fresh c s d l t p)
      (hinconsistent : Inconsistent c (Transform.vehicleOnMap l.pose t d.pose) p) :
      Judged c s d ⟨.ok (.rejected r), askedReference c d, []⟩
  | passed (l : Landmark α) (t : Transform α) (p : ReferencePose α) (hpassed : Passed c s d l t p) :
      Judged c s d
        ⟨(estimate c d (Transform.vehicleOnMap l.pose t d.pose)).map .accepted,
          askedReference c d, []⟩

/-! ## Verdicts of passed detections -/

theorem map_accepted_eq_ok_iff {β : Type} {x : Except Fault (Estimate β)} {v : Verdict β} :
    x.map Verdict.accepted = .ok v ↔ ∃ e, x = .ok e ∧ v = .accepted e := by
  cases x with
  | error f => simp [Except.map]
  | ok e => simp [Except.map, eq_comm]

theorem map_accepted_eq_error_iff {β : Type} {x : Except Fault (Estimate β)} {f : Fault} :
    x.map Verdict.accepted = .error f ↔ x = .error f := by
  cases x <;> simp [Except.map]

/-! ## Every judgement is one of the ends -/

theorem limitSq_error_iff (distance : α) (f : Fault) :
    Gate.limitSq distance = .error f ↔ f = .overflow ∧ Scalar.power? distance 2 = none := by
  unfold Gate.limitSq
  cases Scalar.power? distance 2 with
  | none => simp [eq_comm]
  | some limit => simp

theorem judged_compareWith {c : FuserConfig α} {s : Services α} {d : Detection α}
    {l : Landmark α} {t : Transform α} (hplaced : Placed c s d l t) :
    Judged c s d
      ⟨compareWith c d (Transform.vehicleOnMap l.pose t d.pose) s.reference,
        askedReference c d, []⟩ := by
  cases hreference : s.reference with
  | none => exact .unreferenced .noReference rfl l t hplaced hreference
  | some p =>
      have hreferenced : Referenced c s d l t p := ⟨hplaced, hreference⟩
      simp only [compareWith]
      cases htemporal : Gate.temporal c.gates.time d.stamp p with
      | some why =>
          obtain ⟨hreason, hstale⟩ := temporal_eq_some htemporal
          exact .stale why hreason l t p hreferenced hstale
      | none =>
          obtain ⟨hage, hwithin⟩ := (temporal_eq_none_iff _ _ _).mp htemporal
          have hfresh : Fresh c s d l t p := ⟨hreferenced, hage, hwithin⟩
          simp only
          cases hspatial :
              Gate.spatial c.gates.position (Transform.vehicleOnMap l.pose t d.pose) p with
          | some why =>
              obtain ⟨hreason, hinconsistent⟩ := spatial_eq_some hspatial
              exact .inconsistent why hreason l t p hfresh hinconsistent
          | none =>
              obtain ⟨hfinite, hapart, hnear⟩ := (spatial_eq_none_iff _ _ _).mp hspatial
              exact .passed l t p ⟨hfresh, hfinite, hapart, hnear⟩

theorem judged_place {c : FuserConfig α} {s : Services α} {d : Detection α}
    {l : Landmark α} (hrange : InRange c s d l) :
    Judged c s d
      (after (s.askLandmark d.id) fun _ =>
        after (s.askFrames c.baseFrame d.sensor) (place c s d l)) := by
  unfold after Services.askLandmark Services.askFrames
  dsimp only
  cases hreply : s.frames c.baseFrame d.sensor with
  | misshapen shape hshape => exact .misshapen l hrange shape hshape hreply
  | answer answer =>
      cases answer with
      | found t => exact judged_compareWith ⟨hrange, hreply⟩
      | missing why =>
          exact .unplaced (.noTransform c.baseFrame d.sensor why) rfl l hrange _ hreply (by simp)
      | failed cause =>
          exact .unplaced (.noTransform c.baseFrame d.sensor cause.phrase) rfl l hrange _ hreply
            (by simp)

theorem judged_locate {c : FuserConfig α} {s : Services α} {d : Detection α}
    {l : Landmark α} (hknown : Known c s d l) :
    Judged c s d (after (s.askLandmark d.id) fun _ => locate c s d l) := by
  cases hfinite : Scalar.isFinite (Gate.distanceSq d.pose) with
  | false =>
      have hrange : Gate.range c.gates.distance (Gate.distanceSq d.pose) =
          .ok (some (.distanceNotFinite (Gate.distanceSq d.pose))) := by
        simp [Gate.range, hfinite]
      unfold locate
      rw [hrange]
      exact .unmeasured _ rfl l hknown hfinite
  | true =>
      have hmeasured : Measured c s d l := ⟨hknown, hfinite⟩
      cases hlimit : Gate.limitSq c.gates.distance with
      | error f =>
          obtain ⟨hf, hsquare⟩ := (limitSq_error_iff _ _).mp hlimit
          have hrange : Gate.range c.gates.distance (Gate.distanceSq d.pose) =
              .error .overflow := by
            simp [Gate.range, hfinite, hlimit, hf]
          unfold locate
          rw [hrange]
          exact .unbounded l hmeasured hsquare
      | ok limit =>
          cases hfar : Scalar.lt limit (Gate.distanceSq d.pose) with
          | true =>
              have hrange : Gate.range c.gates.distance (Gate.distanceSq d.pose) =
                  .ok (some (.tooFar (Gate.distanceSq d.pose) limit)) := by
                simp [Gate.range, hfinite, hlimit, hfar]
              unfold locate
              rw [hrange]
              exact .far _ rfl l hmeasured limit hlimit hfar
          | false =>
              have hrange : Gate.range c.gates.distance (Gate.distanceSq d.pose) = .ok none := by
                simp [Gate.range, hfinite, hlimit, hfar]
              unfold locate
              rw [hrange]
              exact judged_place ⟨hmeasured, limit, hlimit, hfar⟩

theorem judged_of (c : FuserConfig α) (s : Services α) (d : Detection α) :
    Judged c s d (Judgement.of c s d) := by
  unfold Judgement.of Gate.whitelist
  by_cases hlisted : d.id ∈ c.gates.whitelist
  · simp only [List.contains_iff_mem, hlisted, if_true]
    cases hlandmark : s.landmark d.id with
    | none =>
        unfold after Services.askLandmark
        dsimp only
        rw [hlandmark]
        exact .unknown _ rfl hlisted hlandmark
    | some l =>
        have hend := judged_locate (c := c) ⟨hlisted, hlandmark⟩
        unfold after Services.askLandmark at hend ⊢
        dsimp only at hend ⊢
        rwa [hlandmark]
  · simp only [List.contains_iff_mem, hlisted, if_false]
    exact .unlisted _ rfl hlisted

/-- A matrix of another shape cannot be composed with the observation. -/
theorem verdict_of_misshapen {c : FuserConfig α} {s : Services α} {d : Detection α}
    {l : Landmark α} (hrange : InRange c s d l) {shape : List Nat} {hshape : shape ≠ [4, 4]}
    (hreply : s.frames c.baseFrame d.sensor = .misshapen shape hshape) :
    (Judgement.of c s d).verdict = .error (.notTransforms shape [4, 4]) := by
  obtain ⟨limit, hlimit, hwithin⟩ := hrange.limit
  have hwhitelist : (Gate.whitelist c.gates.whitelist d.id : Option (Rejection α)) = none := by
    simp [Gate.whitelist, hrange.listed]
  have hgate : Gate.range c.gates.distance (Gate.distanceSq d.pose) = .ok none := by
    simp [Gate.range, hrange.finite, hlimit, hwithin]
  simp only [Judgement.of, after, Services.askLandmark, Services.askFrames, settled, hwhitelist,
    hrange.landmark, locate, hgate, place, hreply]

/-! ## Accepted detections -/

theorem pose_of_estimate {c : FuserConfig α} {d : Detection α} {pose : Transform α}
    {e : Estimate α} (hestimate : estimate c d pose = .ok e) : e.pose = pose := by
  unfold estimate at hestimate
  dsimp only at hestimate
  split at hestimate
  · cases hestimate
  · cases hestimate
    rfl

/-- An accepted detection has passed every gate, and its estimate holds the pose that was found. -/
theorem passed_of_accepted {c : FuserConfig α} {s : Services α} {d : Detection α} {e : Estimate α}
    (haccepted : (Judgement.of c s d).verdict = .ok (.accepted e)) :
    ∃ l t p, Passed c s d l t p ∧ e.pose = Transform.vehicleOnMap l.pose t d.pose := by
  have hjudged := judged_of c s d
  cases hjudgement : Judgement.of c s d with
  | mk verdict queries log =>
      rw [hjudgement] at hjudged haccepted
      cases hjudged with
      | passed l t p hpassed =>
          obtain ⟨e', hestimate, hsame⟩ := map_accepted_eq_ok_iff.mp haccepted
          cases hsame
          exact ⟨l, t, p, hpassed, pose_of_estimate hestimate⟩
      | _ => cases haccepted

/-- A detection that passes every gate gets an estimate, if its covariance can be scaled. -/
theorem verdict_of_passed {c : FuserConfig α} {s : Services α} {d : Detection α} {l : Landmark α}
    {t : Transform α} {p : ReferencePose α} (hpassed : Passed c s d l t p) :
    (Judgement.of c s d).verdict =
      (estimate c d (Transform.vehicleOnMap l.pose t d.pose)).map .accepted := by
  obtain ⟨limit, hlimit, hwithin⟩ := hpassed.limit
  have hwhitelist : (Gate.whitelist c.gates.whitelist d.id : Option (Rejection α)) = none := by
    simp [Gate.whitelist, hpassed.listed]
  have hrange : Gate.range c.gates.distance (Gate.distanceSq d.pose) = .ok none := by
    simp [Gate.range, hpassed.finite, hlimit, hwithin]
  have htemporal : Gate.temporal c.gates.time d.stamp p = none :=
    (temporal_eq_none_iff _ _ _).mpr ⟨hpassed.ageFinite, hpassed.ageWithin⟩
  have hspatial :
      Gate.spatial c.gates.position (Transform.vehicleOnMap l.pose t d.pose) p = none :=
    (spatial_eq_none_iff _ _ _).mpr
      ⟨hpassed.poseFinite, hpassed.apartFinite, hpassed.apartWithin⟩
  simp only [Judgement.of, after, Services.askLandmark, Services.askFrames, Services.askReference,
    settled, hwhitelist, hpassed.landmark, locate, hrange, place, hpassed.found,
    Gate.transform, compareWith, hpassed.reference, htemporal, hspatial]

end Judgement
end Fiducial
