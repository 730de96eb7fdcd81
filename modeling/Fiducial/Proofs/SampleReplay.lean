import Mathlib
import Fiducial.Proofs.PublishedBounds
import Fiducial.Proofs.PublishedPoses
import Fiducial.Proofs.RecordLines
import Fiducial.Proofs.SampleDocuments
import Fiducial.Proofs.SampleEvents
import Fiducial.Proofs.SnapshotSimulation

/-!
# A replay of the sample

The events of a sample are read from its file as two calls a cycle: the reference pose and the
detections of what the camera saw.  In exact arithmetic, at the speed and with the period of the
request, and with the map and the frames that are loaded from the files, every detection leads back
to the pose at which the vehicle stood.  So whatever is published in a replay is the true pose of
its cycle, however far the reference poses are off.
-/

namespace Fiducial

namespace Sample

open Transform

/-! ## Cycles as calls -/

section Calls

variable {σ α : Type} [Scalar α]

/-- The rotation of a reference pose, whose quaternion has a real part only. -/
def upright : Mat3 α :=
  ((⟨0.0, 0.0, 0.0, 1.0⟩ : Quaternion Float).map Scalar.ofFloat).normalize.normalize.unitMatrix

def Sight.detection (stamp : α) (s : Sight α) : Detection α :=
  ⟨s.id, stamp, "camera", ofVectors s.rotation s.position⟩

/-- The reference pose of a cycle, which is taken a little before it. -/
def Cycle.referencePose (round : α → α) (c : Cycle α) : ReferencePose α :=
  ⟨round (c.time - Scalar.ofFloat 0.05), rigid upright c.reference⟩

def Cycle.detections (round : α → α) (c : Cycle α) : List (Detection α) :=
  c.sights.map (Sight.detection (round c.time))

/-- The calls that a cycle stands for, when its times are rounded. -/
def Cycle.calls (round : α → α) (c : Cycle α) : List (Localizer.Call α) :=
  [.reference (c.referencePose round),
    .detections (.float (Scalar.toFloat (round c.time))) (c.detections round) none]

/-- The calls of a replay: the map, and cycle by cycle what the events of the drive tell. -/
def Drive.calls (d : Drive α) (round : α → α) (map : List (Landmark α)) (cycles : Nat) :
    List (Localizer.Call α) :=
  .landmarks (map.map .ok) :: (List.range cycles).flatMap fun k => (d.cycle k).calls round

end Calls

/-! ## Events as calls -/

section Events

/-- The times of the sample are rounded to the microsecond. -/
def microsecond (t : Float) : Float := Binary.roundedPlaces 6 t

def referenceFields (c : Cycle Float) : List (Value × Value) :=
  [(.str "type", .str "reference_pose"), (.str "t", stampOf (c.time - 0.05)),
    (.str "position", vector c.reference),
    (.str "orientation_xyzw", .list [.float 0.0, .float 0.0, .float 0.0, .float 1.0])]

def detectionsFields (c : Cycle Float) : List (Value × Value) :=
  [(.str "type", .str "detections"), (.str "t", stampOf c.time),
    (.str "sensor_frame", .str "camera"), (.str "detections", .list (c.sights.map Sight.entry))]

theorem reference_fields (c : Cycle Float) :
    Event.reference (referenceFields c) = .ok (c.referencePose microsecond) := by
  have hquaternion : Event.quaternion "orientation_xyzw" (referenceFields c) =
      .ok ⟨0.0, 0.0, 0.0, 1.0⟩ := rfl
  have hmatrix : ((⟨0.0, 0.0, 0.0, 1.0⟩ : Quaternion Float).map Scalar.ofFloat).toMatrix? =
      some (upright : Mat3 Float) :=
    (if_neg (by decide +kernel)).trans (if_neg (by decide +kernel))
  have hrotation : Event.rotation (referenceFields c) = .ok (upright : Mat3 Float) := by
    have hgiven : Value.lookup "orientation_xyzw" (referenceFields c) =
        some (.list [.float 0.0, .float 0.0, .float 0.0, .float 1.0]) := rfl
    simp only [Event.rotation, hgiven, hquaternion, bind, Except.bind, hmatrix]
    rfl
  have hstamp : Event.stamp (referenceFields c) = .ok (microsecond (c.time - 0.05)) := rfl
  have hposition : Event.vector "position" (referenceFields c) = .ok c.reference := rfl
  simp only [Event.reference, hrotation, hstamp, hposition, bind, Except.bind, pure, Except.pure]
  rfl

theorem detection_entry (stamp : Float) (s : Sight Float) :
    Event.detection stamp "camera" s.entry = .ok (s.detection stamp) := rfl

theorem itemsOrNone_list (vs : List Value) : (Value.list vs).itemsOrNone = .ok vs := by
  cases vs <;> rfl

theorem detections_fields (c : Cycle Float) :
    Event.detections (detectionsFields c) = .ok (c.detections microsecond) := by
  have hall : (c.sights.map Sight.entry).mapM (Event.detection (microsecond c.time) "camera") =
      .ok (c.detections microsecond) := by
    apply mapM_ok_iff.mpr
    rw [Cycle.detections, List.map_map, List.map_map]
    refine List.map_congr_left fun s _ => ?_
    rw [Function.comp_apply, detection_entry]
    rfl
  have hread : Event.detections (detectionsFields c) = (do
      let vs ← (Value.list (c.sights.map Sight.entry)).itemsOrNone
      vs.mapM (Event.detection (microsecond c.time) "camera")) := rfl
  rw [hread, itemsOrNone_list]
  exact hall

/-! ## Replays of events -/

variable {σ : Type} [Numerics Float] (setup : Setup σ Float)

theorem localizer_step_reference (s : Replay.State σ Float) (c : Cycle Float) :
    (Replay.step setup s (referenceEvent c)).state.localizer =
      Localizer.after setup s.localizer (.reference (c.referencePose microsecond)) := by
  have hkind : Replay.kindOf (referenceFields c) = .ok "reference_pose" := rfl
  have hevent : referenceEvent c = .map (referenceFields c) := rfl
  have hdispatch (s' : Replay.State σ Float) :
      Replay.dispatch setup s' "reference_pose" (referenceFields c) =
        Replay.reference s' (referenceFields c) := rfl
  rw [hevent, Replay.step_of_kind s hkind, Replay.skipping_state, hdispatch, Replay.reference,
    reference_fields]
  rfl

theorem localizer_step_detections (s : Replay.State σ Float) (c : Cycle Float) :
    (Replay.step setup s (detectionsEvent c)).state.localizer =
      Localizer.after setup s.localizer
        (.detections (.float (microsecond c.time)) (c.detections microsecond) none) := by
  have hkind : Replay.kindOf (detectionsFields c) = .ok "detections" := rfl
  have hevent : detectionsEvent c = .map (detectionsFields c) := rfl
  have hdispatch (s' : Replay.State σ Float) :
      Replay.dispatch setup s' "detections" (detectionsFields c) =
        Replay.cycle setup s' (detectionsFields c) := rfl
  rw [hevent, Replay.step_of_kind s hkind, Replay.skipping_state, hdispatch, Replay.cycle,
    detections_fields]
  dsimp only
  split <;> rfl

/-- The events of a cycle, each with the call that it stands for. -/
def Cycle.steps (c : Cycle Float) : List (Value × Localizer.Call Float) :=
  [(referenceEvent c, .reference (c.referencePose microsecond)),
    (detectionsEvent c, .detections (.float (microsecond c.time)) (c.detections microsecond) none)]

/-- However a replay of steps ends, the calls of the first of them have been made. -/
theorem localizer_steps {steps : List (Value × Localizer.Call Float)}
    (hsteps : ∀ step ∈ steps, ∀ s : Replay.State σ Float,
      (Replay.step setup s step.1).state.localizer =
        Localizer.after setup s.localizer step.2)
    (s : Replay.State σ Float) :
    ∃ made, made <+: steps.map (·.2) ∧
      (Replay.steps setup s (steps.map (·.1))).state.localizer =
        Localizer.afterAll setup s.localizer made ∧
      ((Replay.steps setup s (steps.map (·.1))).outcome = .ok () → made = steps.map (·.2)) := by
  induction steps generalizing s with
  | nil => exact ⟨[], List.nil_prefix, rfl, fun _ => rfl⟩
  | cons step steps ih =>
      have hfirst := hsteps step List.mem_cons_self s
      obtain ⟨made, hprefix, hstate, hall⟩ :=
        ih (fun other hother => hsteps other (List.mem_cons_of_mem step hother))
          (Replay.step setup s step.1).state
      simp only [List.map_cons, Replay.steps]
      cases houtcome : (Replay.step setup s step.1).outcome with
      | error f =>
          refine ⟨[step.2], List.cons_prefix_cons.mpr ⟨rfl, List.nil_prefix⟩, hfirst, ?_⟩
          intro hreturns
          cases houtcome.symm.trans hreturns
      | ok u =>
          refine ⟨step.2 :: made, List.cons_prefix_cons.mpr ⟨rfl, hprefix⟩, ?_, ?_⟩
          · rw [hstate, hfirst]
            rfl
          · exact fun hreturns => congrArg _ (hall hreturns)

theorem localizer_step_of_cycle {c : Cycle Float} {step : Value × Localizer.Call Float}
    (hstep : step ∈ c.steps) (s : Replay.State σ Float) :
    (Replay.step setup s step.1).state.localizer = Localizer.after setup s.localizer step.2 := by
  rcases List.mem_cons.mp hstep with rfl | hstep
  · exact localizer_step_reference setup s c
  · rw [List.mem_singleton.mp hstep]
    exact localizer_step_detections setup s c

/-- However a replay of the events of a drive ends, it has made the first calls of the drive, and
all of them if it returns. -/
theorem run_eventsOf (published : σ) (map : List (Landmark Float)) (d : Drive Float)
    (cycles : Nat) :
    ∃ made, made <+: d.calls microsecond map cycles ∧
      (Replay.run setup published map (eventsOf d cycles) none).state.localizer =
        Localizer.afterAll setup (Localizer.new published) made ∧
      ((Replay.run setup published map (eventsOf d cycles) none).outcome = .ok () →
        made = d.calls microsecond map cycles) := by
  let steps := (List.range cycles).flatMap fun k => (d.cycle k).steps
  have hevents : eventsOf d cycles = steps.map (·.1) := by
    rw [List.map_flatMap]
    rfl
  have hcalls : d.calls microsecond map cycles =
      .landmarks (map.map .ok) :: steps.map (·.2) := by
    rw [List.map_flatMap]
    rfl
  have hsteps : ∀ step ∈ steps, ∀ s : Replay.State σ Float,
      (Replay.step setup s step.1).state.localizer =
        Localizer.after setup s.localizer step.2 := by
    intro step hstep
    obtain ⟨k, -, hmem⟩ := List.mem_flatMap.mp hstep
    exact localizer_step_of_cycle setup hmem
  cases hcollect : Registry.collect (map.map .ok) with
  | error f =>
      refine ⟨[], List.nil_prefix, ?_, ?_⟩
      · simp only [Replay.run, Localizer.setLandmarks, hcollect]
        rfl
      · intro hreturns
        obtain ⟨-, r, hfound⟩ := Replay.run_ok hreturns
        rw [hcollect] at hfound
        cases hfound
  | ok r =>
      obtain ⟨houtcome, hstate⟩ :=
        Replay.run_of_collect setup published hcollect (eventsOf d cycles)
      obtain ⟨made, hprefix, hmade, hall⟩ :=
        localizer_steps setup hsteps (Replay.loaded published map)
      rw [houtcome, hstate, hevents, hcalls]
      refine ⟨.landmarks (map.map .ok) :: made, List.cons_prefix_cons.mpr ⟨rfl, hprefix⟩, ?_, ?_⟩
      · rw [hmade]
        rfl
      · exact fun hreturns => congrArg _ (hall hreturns)

end Events

/-! ## Cycles in exact arithmetic -/

noncomputable section Exact

variable {σ : Type} {d : Drive ℝ} {round : ℝ → ℝ} {k : Nat}

theorem time_cycle (d : Drive ℝ) (k : Nat) : (d.cycle k).time = k * d.period :=
  congrArg (· * d.period) (Scalar.ofNat_real k)

theorem vehicle_cycle (d : Drive ℝ) (k : Nat) :
    (d.cycle k).vehicle = rigid Mat3.identity ⟨d.speed * (k * d.period), 0, 0⟩ := by
  have hvehicle : (d.cycle k).vehicle = d.vehicleAt (d.cycle k).time := rfl
  rw [hvehicle, time_cycle]
  rfl

/-- The places of the scene are told apart by their ids. -/
theorem place_eq_of_id {p q : Place} (hp : p ∈ places) (hq : q ∈ places) (hid : p.id = q.id) :
    p = q :=
  List.inj_on_of_nodup_map (f := Place.id) (by decide) hp hq hid

theorem pose_of_sight (hback : d.TurnsBack) {s : Sight ℝ} (hs : s ∈ (d.cycle k).sights)
    {m : Landmark ℝ} (hm : m ∈ map) (hid : m.id = s.id) :
    vehicleOnMap m.pose cameraOnVehicle (ofVectors s.rotation s.position) =
      (d.cycle k).vehicle := by
  obtain ⟨p, hp, hsight, hpose⟩ := vehicleOnMap_sight hback (d.cycle k).time hs
  obtain ⟨q, hq, rfl⟩ := List.mem_map.mp hm
  obtain rfl : q = p := place_eq_of_id hq hp (hid.trans hsight)
  exact hpose

/-- The camera sees the landmarks that are more than half a metre in front of it. -/
theorem ids_sights (d : Drive ℝ) (k : Nat) :
    (d.cycle k).sights.map (·.id) =
      (map.filter fun m => decide (1 / 2 <
        (observation (d.cycle k).vehicle cameraOnVehicle m.pose).translation.z)).map (·.id) := by
  have hvisible (t : Transform ℝ) : Drive.isVisible t = decide (1 / 2 < t.translation.z) := by
    have hle : Drive.isVisible t = !decide (t.translation.z ≤ Scalar.ratio 1 2) := rfl
    rw [hle, Scalar.ratio_real, Nat.cast_one, Nat.cast_ofNat, ← decide_not]
    simp only [not_le]
  have hsights : (d.cycle k).sights.map (·.id) =
      (places.filter fun p => Drive.isVisible
        (Drive.seen (d.cycle k).vehicle (p.landmark : Landmark ℝ))).map (·.id) := List.map_map
  rw [hsights, map, List.filter_map, List.map_map]
  simp only [hvisible]
  rfl

/-! ## Estimates of a cycle -/

/-- An estimate that is true of a cycle, and its record. -/
structure TrueOf (d : Drive ℝ) (round : ℝ → ℝ) (k : Nat) (e : Estimate ℝ) : Prop where
  stamp_eq : e.stamp = round (k * d.period)
  pose_eq : e.pose = (d.cycle k).vehicle
  seen : e.id ∈ (d.cycle k).sights.map (·.id)
  listed : e.id ∈ targets
  record_eq : PoseLog.record e = .ok (.map (PoseLog.Contents.fields
    ⟨round (k * d.period), "map", e.id, [d.speed * (k * d.period), 0, 0], ⟨0, 0, 0, 1⟩, 0,
      e.covariance.entries, e.distance, e.scale⟩))

/-- What a fuser is set up with for a replay of the sample. -/
structure Prepared (c : FuserConfig ℝ) (s : Services ℝ) : Prop where
  whitelist_eq : c.gates.whitelist = targets
  mapFrame_eq : c.mapFrame = "map"
  camera : s.frames c.baseFrame "camera" = .answer (.found cameraOnVehicle)
  landmark : ∀ id m, s.landmark id = some m → m ∈ map ∧ m.id = id

theorem trueOf_accepted (hback : d.TurnsBack) {c : FuserConfig ℝ} {s : Services ℝ}
    (hprepared : Prepared c s) {seen : Detection ℝ} (hseen : seen ∈ (d.cycle k).detections round)
    {e : Estimate ℝ} (haccepted : (Judgement.of c s seen).verdict = .ok (.accepted e)) :
    TrueOf d round k e := by
  obtain ⟨sight, hsight, rfl⟩ := List.mem_map.mp hseen
  obtain ⟨m, b, r, hpassed, -⟩ := Judgement.passed_of_accepted haccepted
  obtain ⟨hm, hid⟩ := hprepared.landmark _ _ hpassed.landmark
  obtain rfl : b = cameraOnVehicle :=
    FrameAnswer.found.inj (FrameReply.answer.inj (hpassed.found.symm.trans hprepared.camera))
  have hestimate := Judgement.estimate_of_verdict hpassed haccepted
  have hstamp : e.stamp = round (k * d.period) := by
    rw [(Judgement.estimate_parts hestimate).1, ← time_cycle]
    rfl
  have hpose : e.pose = (d.cycle k).vehicle :=
    (Judgement.pose_of_estimate hestimate).trans (pose_of_sight hback hsight hm hid)
  obtain ⟨hframe, hname, -⟩ := Judgement.estimate_fields hestimate
  constructor
  case stamp_eq => exact hstamp
  case pose_eq => exact hpose
  case seen =>
    rw [hname]
    exact List.mem_map_of_mem hsight
  case listed =>
    rw [hname, ← hprepared.whitelist_eq]
    exact hpassed.listed
  case record_eq =>
    rw [vehicle_cycle] at hpose
    have hrotation : e.pose.rotation = Mat3.identity := congrArg Transform.rotation hpose
    have hposition : e.position = ⟨d.speed * (k * d.period), 0, 0⟩ :=
      congrArg Transform.translation hpose
    simp only [PoseLog.record, hrotation, Rotation.toQuaternion_identity,
      Rotation.toHeading_identity, hstamp, hframe.trans hprepared.mapFrame_eq, hposition, bind,
      Except.bind, pure, Except.pure]
    rfl

/-! ## Replays in exact arithmetic -/

/-- The estimates that the calls of a drive publish. -/
def publishedBy (setup : Setup σ ℝ) (published : σ) (calls : List (Localizer.Call ℝ)) :
    List (Estimate ℝ) :=
  (Localizer.afterAll setup.recording (Localizer.new (published, [])) calls).fuser.published.2

/-- A localizer with the map of the scene that has published true estimates only. -/
structure OnTrack (d : Drive ℝ) (round : ℝ → ℝ) (cycles : Nat)
    (l : Localizer (σ × List (Estimate ℝ)) ℝ) : Prop where
  landmarks : l.landmarks = ⟨map⟩
  published : ∀ e ∈ l.fuser.published.2, ∃ k < cycles, TrueOf d round k e

theorem onTrack_start (setup : Setup σ ℝ) (published : σ) (d : Drive ℝ) (round : ℝ → ℝ) :
    OnTrack d round 0 (Localizer.after setup.recording (Localizer.new (published, []))
      (.landmarks (map.map .ok))) := by
  have hcollect : Registry.collect (map.map .ok) = .ok ⟨map⟩ := rfl
  simp only [Localizer.after, Localizer.setLandmarks, hcollect]
  constructor
  case landmarks => rfl
  case published => exact List.forall_mem_nil _

variable {setup : Setup σ ℝ} {l : Localizer (σ × List (Estimate ℝ)) ℝ} {cycles : Nat}

/-- What one cycle preserves, whatever its reference pose is. -/
theorem OnTrack.next (hback : d.TurnsBack) (hl : OnTrack d round cycles l)
    (hsetup : ∀ reference, Prepared setup.fuser
      ⟨(⟨map⟩ : Registry ℝ).lookup, setup.frames, reference⟩) :
    OnTrack d round (cycles + 1)
      (Localizer.afterAll setup.recording l ((d.cycle cycles).calls round)) := by
  let referenced := l.setReference ((d.cycle cycles).referencePose round)
  have hservices : referenced.services setup.recording =
      ⟨(⟨map⟩ : Registry ℝ).lookup, setup.frames, referenced.reference.value⟩ := by
    have hlandmarks : referenced.landmarks = ⟨map⟩ := hl.landmarks
    rw [Localizer.services, hlandmarks]
    rfl
  have hrecord := Fuser.record_processAll setup.fuser setup.publish
    (referenced.services setup.recording) l.fuser ((d.cycle cycles).detections round)
  constructor
  case landmarks => exact hl.landmarks
  case published =>
    intro e he
    have hmem : e ∈ (Fuser.processAll setup.fuser (referenced.services setup.recording)
        setup.publish.recorded l.fuser ((d.cycle cycles).detections round)).state.published.2 := he
    rw [hrecord, List.mem_append] at hmem
    rcases hmem with hold | hnew
    · obtain ⟨k, hk, htrue⟩ := hl.published e hold
      exact ⟨k, hk.trans (Nat.lt_succ_self cycles), htrue⟩
    · obtain ⟨seen, hseen, haccepted⟩ := Fuser.accepted_of_mem_returned _ _ _ _ _ e hnew
      rw [hservices] at haccepted
      exact ⟨cycles, Nat.lt_succ_self cycles,
        trueOf_accepted hback (hsetup referenced.reference.value) hseen haccepted⟩

theorem onTrack_calls (hback : d.TurnsBack) (published : σ) (round : ℝ → ℝ) (cycles : Nat)
    (hsetup : ∀ reference, Prepared setup.fuser
      ⟨(⟨map⟩ : Registry ℝ).lookup, setup.frames, reference⟩) :
    OnTrack d round cycles (Localizer.afterAll setup.recording (Localizer.new (published, []))
      (d.calls round map cycles)) := by
  induction cycles with
  | zero => exact onTrack_start setup published d round
  | succ cycles ih =>
      have hcalls : d.calls round map (cycles + 1) =
          d.calls round map cycles ++ (d.cycle cycles).calls round := by
        simp [Drive.calls, List.range_succ]
      rw [hcalls, Localizer.afterAll, List.foldl_append]
      exact ih.next hback hsetup

/-- What is published stays published. -/
theorem mem_published_afterAll (setup : Setup σ ℝ) (calls : List (Localizer.Call ℝ))
    (l : Localizer (σ × List (Estimate ℝ)) ℝ) : ∀ e ∈ l.fuser.published.2,
      e ∈ (Localizer.afterAll setup.recording l calls).fuser.published.2 := by
  induction calls generalizing l with
  | nil => exact fun _ he => he
  | cons call calls ih =>
      intro e he
      refine ih (Localizer.after setup.recording l call) e ?_
      have hgrown := Session.published_after setup l (.call setup.recording.frames call)
      exact (congrArg (e ∈ ·) hgrown).mpr (List.mem_append_left _ he)

theorem prepared_of_original {x : Loaded} (hx : Original x) (name : String)
    (publish : Publisher σ ℝ) (solver : PoseSolver ℝ) (reference : Option (ReferencePose ℝ)) :
    Prepared (Setup.ofConfig x.config name x.frames.lookup publish solver).fuser
      ⟨(⟨map⟩ : Registry ℝ).lookup, x.frames.lookup, reference⟩ := by
  constructor
  case whitelist_eq => exact hx.config.targets_eq
  case mapFrame_eq => exact congrArg Value.text hx.config.mapFrame_eq
  case camera =>
    have hbase : x.config.baseFrame.text = "base_link" :=
      congrArg Value.text hx.config.baseFrame_eq
    rw [hx.frames, ← lookup_camera, ← hbase]
    rfl
  case landmark =>
    intro id m hfound
    have hfind : map.find? (·.id = id) = some m := hfound
    have hid := List.find?_some hfind
    exact ⟨List.mem_of_find?_eq_some hfind, of_decide_eq_true hid⟩

/-! ## The sample and its replay -/

/-- What is loaded from a sample and its drive agree about every cycle. -/
structure Agrees (x : Loaded) (d : Drive ℝ) : Prop where
  vehicle_eq : ∀ k, (d.cycle k).vehicle = rigid Mat3.identity ⟨d.speed * (k * d.period), 0, 0⟩
  /-- The landmarks in sight are those of the map that are far enough in front of the camera. -/
  sights_eq : ∀ k, (d.cycle k).sights.map (·.id) =
    (x.map.filter fun m => decide (1 / 2 <
      (observation (d.cycle k).vehicle x.camera m.pose).translation.z)).map (·.id)
  poses_eq : ∀ k, ∀ s ∈ (d.cycle k).sights, ∀ m ∈ x.map, m.id = s.id →
    vehicleOnMap m.pose x.camera (ofVectors s.rotation s.position) = (d.cycle k).vehicle
  /-- What a replay publishes, wherever it ends, is true of its cycle, and has a record. -/
  published : ∀ (σ : Type) (publish : Publisher σ ℝ) (published : σ) (solver : PoseSolver ℝ)
    (name : String) (round : ℝ → ℝ) (cycles : Nat) (made : List (Localizer.Call ℝ)),
    made <+: d.calls round x.map cycles →
    ∀ e ∈ publishedBy (Setup.ofConfig x.config name x.frames.lookup publish solver) published
        made,
      e.id ≠ "99" ∧ ∃ k < cycles, TrueOf d round k e

theorem agrees_of_original (hback : d.TurnsBack) {x : Loaded} (hx : Original x) : Agrees x d := by
  constructor
  case vehicle_eq => exact vehicle_cycle d
  case sights_eq =>
    intro k
    rw [hx.map, hx.camera]
    exact ids_sights d k
  case poses_eq =>
    intro k s hs m hm hid
    rw [hx.map] at hm
    rw [hx.camera]
    exact pose_of_sight hback hs hm hid
  case published =>
    intro σ publish published solver name round cycles made hmade e he
    rw [hx.map] at hmade
    obtain ⟨rest, hcalls⟩ := hmade
    have hontrack := onTrack_calls hback published round cycles
      (prepared_of_original hx name publish solver)
    rw [← hcalls, Localizer.afterAll, List.foldl_append] at hontrack
    obtain ⟨k, hk, htrue⟩ := hontrack.published e (mem_published_afterAll _ rest _ e he)
    refine ⟨?_, k, hk, htrue⟩
    rintro hid
    exact absurd (hid ▸ htrue.listed) (by decide)

/-- The drive and the number of cycles that are asked for, of which there is always one. -/
structure Requested (noise : Int → Nat → Float × Float) (r : Request) (drive : Drive Float)
    (cycles : Nat) : Prop where
  speed_eq : r.speed.toFloat = .ok drive.speed
  period_eq : r.period.toFloat = .ok drive.period
  noise_eq : ∃ seed, r.seed.toInt = .ok seed ∧ drive.noise = noise seed
  toVector_eq : drive.toVector = Rotation.toVector
  cycles_eq : ∃ n, r.cycles.toInt = .ok n ∧ cycles = (max 1 n).toNat

theorem requested_of_events {noise : Int → Nat → Float × Float} {r : Request} {es : List Value}
    (hevents : r.events noise = .ok es) :
    ∃ drive cycles, Requested noise r drive cycles ∧ es = eventsOf drive cycles := by
  obtain ⟨seed, hseed, hevents⟩ := exists_of_bind_ok hevents
  dsimp only at hevents
  split at hevents
  · cases hevents
  · obtain ⟨n, hn, hevents⟩ := exists_of_bind_ok hevents
    obtain ⟨period, hperiod, hevents⟩ := exists_of_bind_ok hevents
    obtain ⟨speed, hspeed, hevents⟩ := exists_of_bind_ok hevents
    exact ⟨⟨speed, period, noise seed, Rotation.toVector⟩, (max 1 n).toNat,
      ⟨hspeed, hperiod, ⟨seed, hseed, rfl⟩, rfl, n, hn, rfl⟩, (Except.ok.inj hevents).symm⟩

/-- The events of a drive are in a file, and however a replay of what is read from it ends, it has
made the first calls of the drive, and all of them if it returns. -/
structure Recorded (t : FileTree) (p : Path) (drive : Drive Float) (cycles : Nat) : Prop where
  load_eq : ∀ text, Event.load t p text = ⟨eventsOf drive cycles, none⟩
  replayed : ∀ (text : String) (σ : Type) [Numerics Float] (setup : Setup σ Float) (published : σ)
    (map : List (Landmark Float)),
    let stream := Event.load t p text
    let replay := Replay.run setup published map stream.events stream.ending
    ∃ made, made <+: drive.calls microsecond map cycles ∧
      replay.state.localizer = Localizer.afterAll setup (Localizer.new published) made ∧
      (replay.outcome = .ok () → made = drive.calls microsecond map cycles)

theorem recorded_of_file {t : FileTree} {p : Path} {drive : Drive Float} {cycles : Nat}
    (hfile : t.node? p = some (.file (eventLines (eventsOf drive cycles)).toUTF8)) :
    Recorded t p drive cycles := by
  have hload := Event.load_eventLines (written_eventsOf drive cycles) hfile
  constructor
  case load_eq => exact hload
  case replayed =>
    intro text σ _ setup published map
    rw [hload text]
    exact run_eventsOf setup published map drive cycles

/-- The drive in exact arithmetic, at the same speed and with the same period.  Its noise may be
any. -/
structure Drive.Idealises (d : Drive ℝ) (drive : Drive Float) : Prop where
  speed_eq : d.speed = Scalar.ofFloat drive.speed
  period_eq : d.period = Scalar.ofFloat drive.period

/-- A sample that was made for a request, and what a replay of it makes of the drive. -/
structure Sampled (noise : Int → Nat → Float × Float) (t : FileTree) (directory : Path)
    (r : Request) : Prop where
  made : ∃ drive cycles x, Requested noise r drive cycles ∧
    Holds t (pathsIn directory) (eventsOf drive cycles) ∧
    Recorded t (pathsIn directory).events drive cycles ∧
    Loads t (pathsIn directory) x ∧
    ∀ d : Drive ℝ, d.Idealises drive → d.TurnsBack → Agrees x d

/-- A sample that is made anew has the events of the requested drive in its file, and agrees with
that drive in exact arithmetic if its rotation vectors give the rotations back, with any noise. -/
theorem sampled_of_ensure {noise : Int → Nat → Float × Float} {t t' : FileTree}
    {directory : Path} {r : Request} (hensure : ensure noise t directory r = (.ok (), t'))
    (hnew : r.overwrite = true ∨ (pathsIn directory).allExist t = false) :
    Sampled noise t' directory r := by
  obtain ⟨es, hevents, hholds⟩ := holds_of_ensure hensure hnew
  obtain ⟨drive, cycles, hrequested, rfl⟩ := requested_of_events hevents
  obtain ⟨x, hloads, hx⟩ := loads_of_holds hholds
  exact ⟨drive, cycles, x, hrequested, hholds, recorded_of_file hholds.events, hloads,
    fun d _ hback => agrees_of_original hback hx⟩

/-- No noise at all. -/
def noNoise : Int → Nat → Float × Float := fun _ _ => (0.0, 0.0)

/-- One metre a second, with the rotation vectors of the library. -/
def walk : Drive ℝ := ⟨1, 1, fun _ => (0, 0), Rotation.toVector⟩

theorem sampled_of_ensure_empty :
    (ensure noNoise FileTree.empty ["sample"] {}).1 = .ok () ∧
      (pathsIn ["sample"]).allExist FileTree.empty = false ∧
      Sampled noNoise (ensure noNoise FileTree.empty ["sample"] {}).2 ["sample"] {} ∧
      walk.TurnsBack ∧
      ∀ drive cycles, Requested noNoise {} drive cycles → walk.Idealises drive := by
  have hmade : (ensure noNoise FileTree.empty ["sample"] {}).1 = .ok () := by
    obtain ⟨_, hok⟩ := exists_of_isOk
      (by decide +kernel : (ensure noNoise FileTree.empty ["sample"] {}).1.isOk = true)
    exact hok
  have hnew : (pathsIn ["sample"]).allExist FileTree.empty = false := by decide +kernel
  have hsampled : Sampled noNoise (ensure noNoise FileTree.empty ["sample"] {}).2 ["sample"] {} :=
    sampled_of_ensure (Prod.ext hmade rfl) (.inr hnew)
  refine ⟨hmade, hnew, hsampled, turnsBack_toVector 1 1 _, ?_⟩
  intro drive cycles hrequested
  have hone : (1 : ℝ) = Scalar.ofFloat 1.0 := Binary.value_one.symm
  constructor
  case speed_eq => rw [← Except.ok.inj hrequested.speed_eq]; exact hone
  case period_eq => rw [← Except.ok.inj hrequested.period_eq]; exact hone

end Exact

end Sample
end Fiducial
