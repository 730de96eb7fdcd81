import Fiducial.Proofs.JudgementCases
import Fiducial.Proofs.OriginScene
import Fiducial.Proofs.PoseRecovery
import Fiducial.Proofs.ReplayRecord
import Fiducial.Proofs.RigidPoses

/-!
# Published poses are rigid

A replay in exact arithmetic keeps two things: the landmarks of its map are rigid, and so is every
pose that it has published.  A map, whether it comes from a file or from an event, is read rigid, so
are the detections, and what is found between the frames of the vehicle is rigid.  An accepted
detection composes these, and the rigid transforms are closed under composition and inversion.
-/

namespace Fiducial

variable {σ : Type}

/-! ## Accepted detections -/

/-- Landmarks and frames that are rigid.  The reference pose may be any. -/
structure Services.Rigid (s : Services ℝ) : Prop where
  landmark : ∀ id l, s.landmark id = some l → l.pose.IsRigid
  frames : ∀ target source t, s.frames target source = .answer (.found t) → t.IsRigid

namespace Fuser

variable (c : FuserConfig ℝ) {s : Services ℝ} (publish : Publisher σ ℝ)

theorem isRigid_accepted (hs : s.Rigid) {d : Detection ℝ} (hd : d.pose.IsRigid) {e : Estimate ℝ}
    {c : FuserConfig ℝ} (haccepted : (Judgement.of c s d).verdict = .ok (.accepted e)) :
    e.pose.IsRigid := by
  obtain ⟨l, t, _, hpassed, hpose⟩ := Judgement.passed_of_accepted haccepted
  have hl : l.pose.IsRigid := hs.landmark d.id l hpassed.landmark
  have ht : t.IsRigid := hs.frames c.baseFrame d.sensor t hpassed.found
  rw [hpose]
  exact hl.compose (ht.compose hd).invert

theorem isRigid_returned (hs : s.Rigid) (state : State σ) {ds : List (Detection ℝ)}
    (hds : ∀ d ∈ ds, d.pose.IsRigid) :
    ∀ e ∈ estimates (returned c s publish state ds), e.pose.IsRigid := by
  induction ds generalizing state with
  | nil => exact List.forall_mem_nil _
  | cons d ds ih =>
      have hd : d.pose.IsRigid := hds d List.mem_cons_self
      have hothers := fun next => ih next fun d' hd' => hds d' (List.mem_cons_of_mem _ hd')
      cases hfirst : (process c s publish state d).result with
      | error f =>
          simp only [returned, hfirst]
          exact List.forall_mem_nil _
      | ok o =>
          simp only [returned, hfirst]
          rcases settle_returns hfirst with ⟨why, _, rfl, _⟩ | ⟨e, hverdict, rfl, _⟩
          · exact hothers _
          · exact List.forall_mem_cons.mpr ⟨isRigid_accepted hs hd hverdict, hothers _⟩

/-- What detections add to the record. -/
theorem record_processAll (s : Services ℝ) (state : State (σ × List (Estimate ℝ)))
    (ds : List (Detection ℝ)) :
    (processAll c s publish.recorded state ds).state.published.2 =
      state.published.2 ++ estimates (returned c s publish.recorded state ds) :=
  Publisher.record_all (processAll_settled c s publish.recorded state ds).published_eq

end Fuser

/-! ## Localizers -/

/-- The map is rigid, and so is all that was published. -/
structure Localizer.Rigid (l : Localizer (σ × List (Estimate ℝ)) ℝ) : Prop where
  map : ∀ m ∈ l.landmarks.landmarks, m.pose.IsRigid
  published : ∀ e ∈ l.fuser.published.2, e.pose.IsRigid

namespace Localizer

variable {setup : Setup σ ℝ} {l : Localizer (σ × List (Estimate ℝ)) ℝ}

theorem rigid_new (published : σ) :
    (new (published, []) : Localizer (σ × List (Estimate ℝ)) ℝ).Rigid where
  map := List.forall_mem_nil _
  published := List.forall_mem_nil _

theorem Rigid.services (hl : l.Rigid)
    (hframes : ∀ target source t, setup.frames target source = .answer (.found t) → t.IsRigid) :
    (l.services setup.recording).Rigid where
  landmark _ m hfound := hl.map m (List.mem_of_find?_eq_some hfound)
  frames := hframes

theorem Rigid.process (hl : l.Rigid)
    (hframes : ∀ target source t, setup.frames target source = .answer (.found t) → t.IsRigid)
    {ds : List (Detection ℝ)} (hds : ∀ d ∈ ds, d.pose.IsRigid) (stamp : Value)
    (detected : Option Value) :
    (Localizer.process setup.recording l stamp ds detected).state.Rigid := by
  constructor
  case map => exact hl.map
  case published =>
    have hrecord := Fuser.record_processAll setup.fuser setup.publish (l.services setup.recording)
      l.fuser ds
    have hnew := Fuser.isRigid_returned setup.fuser setup.publish.recorded (hl.services hframes)
      l.fuser hds
    intro e he
    have hmem : e ∈ (Fuser.processAll setup.fuser (l.services setup.recording)
        setup.publish.recorded l.fuser ds).state.published.2 := he
    rw [hrecord] at hmem
    exact List.forall_mem_append.mpr ⟨hl.published, hnew⟩ e hmem

theorem Rigid.setLandmarks (hl : l.Rigid) {ls : List (Except Fault (Landmark ℝ))}
    (hls : ∀ m, .ok m ∈ ls → m.pose.IsRigid) : (l.setLandmarks ls).state.Rigid := by
  unfold Localizer.setLandmarks
  cases hcollect : Registry.collect ls with
  | error f => exact hl
  | ok r =>
      constructor
      case map => exact Registry.isRigid_collect hls hcollect
      case published => exact hl.published

end Localizer

/-! ## Replays -/

namespace Replay

section Runs

variable {setup : Setup σ ℝ} {s : State (σ × List (Estimate ℝ)) ℝ}

theorem cycle_localizer (setup : Setup σ ℝ) (s : State σ ℝ) {es : List (Value × Value)}
    {ds : List (Detection ℝ)} (hread : Event.detections es = .ok ds) :
    (cycle setup s es).state.localizer =
      (Localizer.process setup s.localizer ((Value.lookup "t" es).getD .null) ds none).state := by
  unfold cycle
  rw [hread]
  dsimp only
  split <;> rfl

theorem dispatch_rigid
    (hframes : ∀ target source t, setup.frames target source = .answer (.found t) → t.IsRigid)
    (hs : s.localizer.Rigid) (kind : String) (es : List (Value × Value)) :
    (dispatch setup.recording s kind es).state.localizer.Rigid := by
  unfold dispatch
  split
  · unfold reference
    split
    · exact hs
    · exact ⟨hs.map, hs.published⟩
  · split
    · cases hread : (Event.detections es : Except Fault (List (Detection ℝ))) with
      | error f =>
          simp only [cycle, hread]
          exact hs
      | ok ds =>
          rw [cycle_localizer setup.recording s hread]
          exact hs.process hframes (Event.isRigid_detections hread) _ none
    · split
      · unfold landmarks
        split
        next => exact hs
        next ls hread => exact hs.setLandmarks fun _ => Event.isRigid_landmarks hread
      · exact hs

theorem step_rigid
    (hframes : ∀ target source t, setup.frames target source = .answer (.found t) → t.IsRigid)
    (hs : s.localizer.Rigid) (event : Value) :
    (step setup.recording s event).state.localizer.Rigid := by
  cases event with
  | map es =>
      cases hkind : kindOf es with
      | error f =>
          simp only [step, hkind]
          exact hs
      | ok kind =>
          rw [step_of_kind s hkind, skipping_state]
          exact dispatch_rigid (s := s.numbered (s.events + 1)) hframes hs kind es
  | _ => exact hs

theorem steps_rigid
    (hframes : ∀ target source t, setup.frames target source = .answer (.found t) → t.IsRigid)
    (hs : s.localizer.Rigid) (events : List Value) :
    (steps setup.recording s events).state.localizer.Rigid := by
  induction events generalizing s with
  | nil => exact hs
  | cons e events ih =>
      have hnext := step_rigid hframes hs e
      simp only [steps]
      split
      next => exact hnext
      next => exact ih hnext

theorem isRigid_publishedBy (setup : Setup σ ℝ)
    (hframes : ∀ target source t, setup.frames target source = .answer (.found t) → t.IsRigid)
    (published : σ) {map : List (Landmark ℝ)} (hmap : ∀ l ∈ map, l.pose.IsRigid)
    (events : List Value) (ending : Option Fault) :
    ∀ e ∈ publishedBy setup published map events ending, e.pose.IsRigid := by
  have hgiven : ∀ l, .ok l ∈ map.map (Except.ok (ε := Fault)) → l.pose.IsRigid := by
    intro l hl
    obtain ⟨l', hl', ⟨⟩⟩ := List.mem_map.mp hl
    exact hmap l hl'
  have hloaded := (Localizer.rigid_new published).setLandmarks hgiven
  have hrun : (run setup.recording (published, []) map events ending).state.localizer.Rigid := by
    unfold run
    dsimp only
    split
    next => exact hloaded
    next => exact steps_rigid hframes hloaded events
  exact hrun.published

/-- What is published in a replay, read off the record, is rigid. -/
structure PublishesRigidly (setup : Setup σ ℝ) (published : σ) (map : List (Landmark ℝ))
    (events : List Value) (ending : Option Fault) : Prop where
  recorded : run setup published map events ending =
    (run setup.recording (published, []) map events ending).unrecorded
  orthogonal : ∀ e ∈ publishedBy setup published map events ending,
    e.pose.rotation.mul e.pose.rotation.transpose = Mat3.identity
  det_eq_one : ∀ e ∈ publishedBy setup published map events ending, e.pose.rotation.det = 1
  bottom_eq : ∀ e ∈ publishedBy setup published map events ending,
    e.pose.bottom = Vec3.zero ∧ e.pose.corner = 1

/-- Every pose is rigid that a replay publishes with the frames of a configuration and a map that is
read from a file, whatever the events hold and however the replay ends. -/
theorem run_publishes_rigidly [Yaml.Library] (c : Config) (name : String) {g : FrameGraph ℝ}
    (hframes : FrameGraph.ofStatic c.transforms = .ok g) (publish : Publisher σ ℝ)
    (solver : PoseSolver ℝ) (published : σ) {tree : FileTree} {path : Path}
    {map : List (Landmark ℝ)} (hmap : LandmarkMap.load tree path = .ok map) (events : List Value)
    (ending : Option Fault) :
    PublishesRigidly (Setup.ofConfig c name g.lookup publish solver) published map events
      ending := by
  have hfound : ∀ target source t,
      FrameReply.answer (g.lookup target source) = .answer (.found t) → t.IsRigid :=
    fun _ _ _ ht => FrameGraph.isRigid_lookup_ofStatic hframes (FrameReply.answer.inj ht)
  have hrigid := isRigid_publishedBy (Setup.ofConfig c name g.lookup publish solver) hfound
    published (LandmarkMap.isRigid_load hmap) events ending
  constructor
  case recorded => exact run_eq_unrecorded _ published map events ending
  case orthogonal => exact fun e he => (hrigid e he).rotation.mul_transpose
  case det_eq_one => exact fun e he => ((Mat3.isRotation_iff _).mp (hrigid e he).rotation).2
  case bottom_eq => exact fun e he => ⟨(hrigid e he).bottom, (hrigid e he).corner⟩

end Runs

/-! ## A camera as the parent of the vehicle -/

namespace ReversedMount

open Transform

/-- The link is crossed against its direction, and its quaternion has length two. -/
def mount : StaticTransform where
  parent := .str "camera"
  child := .str "base_link"
  translation := .list [.float 0, .float 0, .float 0]
  rotation := .list [.float 0, .float 0, .float 0, .float 2]

def config : Config where
  targets := ["5"]
  covariance := (OriginScene.config 1).covariance
  distance := ⟨.float 1, 1, rfl⟩
  time := ⟨.float 1, 1, rfl⟩
  position := ⟨.float 1, 1, rfl⟩
  markerSize := ⟨.float 1, 1, rfl⟩
  maxError := ⟨.float 1, 1, rfl⟩
  detectionMode := .normal
  minMarkerSize := ⟨.float 0, 0, rfl⟩
  mapFrame := .str "map"
  baseFrame := .str "base_link"
  transforms := [mount]

def entry : Value :=
  .map [(.str "id", .str "5"), (.str "position", .list [.int 0, .int 0, .int 0])]

def mapText : String := "\x7b\"landmarks\": [\x7b\"id\": \"5\", \"position\": [0, 0, 0]\x7d]\x7d"

def tree : FileTree := ⟨[(["map.json"], .file mapText.toUTF8)]⟩

def listsEntry : Except Fault Value → Bool
  | .ok (.map [(.str "landmarks", .list [.map [(.str "id", .str "5"),
      (.str "position", .list [.int 0, .int 0, .int 0])]])]) => true
  | _ => false

theorem document_tree :
    LandmarkMap.document tree ["map.json"] = .ok (.map [(.str "landmarks", .list [entry])]) := by
  have hlists : listsEntry (LandmarkMap.document tree ["map.json"]) = true := by decide +kernel
  unfold listsEntry at hlists
  split at hlists
  next hread => exact hread
  next => cases hlists

theorem map_zero : (⟨0, 0, 0⟩ : Vec3 Float).map (Scalar.ofFloat : Float → ℝ) = Vec3.zero := by
  simp only [Vec3.map, Scalar.ofFloat, Binary.value_zero, Vec3.zero]

theorem toMatrix_map {w : Float} (hw : 1 ≤ Binary.value w) :
    ((⟨0, 0, 0, w⟩ : Quaternion Float).map (Scalar.ofFloat : Float → ℝ)).toMatrix? =
      some Mat3.identity := by
  have hzero : (Scalar.ofFloat (0 : Float) : ℝ) = 0 := Binary.value_zero
  simp only [Quaternion.map, hzero]
  exact Quaternion.toMatrix_real hw

theorem transform_mount : (mount.transform : Except Fault (Transform ℝ)) = .ok identity := by
  have hrotation : StaticTransform.tensorOf mount.rotation = .ok ⟨[4], [0, 0, 0, 2]⟩ := rfl
  have htranslation : StaticTransform.tensorOf mount.translation = .ok ⟨[3], [0, 0, 0]⟩ := rfl
  have hmatrix := toMatrix_map (w := 2) (by rw [Binary.value_two]; norm_num)
  simp only [StaticTransform.transform, hrotation, htranslation, bind, Except.bind,
    Tensor.toQuaternion, Tensor.toVec3, Tensor.entries, Quaternion.ofList?, Vec3.ofList?, hmatrix,
    map_zero]
  rfl

noncomputable section

def landmark : Landmark ℝ := ⟨"5", identity⟩

theorem entryOf_entry : LandmarkMap.entryOf 0 entry = .ok landmark := by
  have hid : LandmarkMap.idOf 0 [(.str "id", .str "5"),
      (.str "position", .list [.int 0, .int 0, .int 0])] = .ok "5" := rfl
  have hmatrix := toMatrix_map (w := 1) (by rw [Binary.value_one])
  have hposition : ∀ field,
      LandmarkMap.vector field (.list [.int 0, .int 0, .int 0]) = .ok ⟨0, 0, 0⟩ := fun _ => rfl
  have hrotation : ∀ field,
      LandmarkMap.quaternion field LandmarkMap.noRotation = .ok ⟨0, 0, 0, 1⟩ := fun _ => rfl
  simp only [LandmarkMap.entryOf, entry, LandmarkMap.rotationOf, LandmarkMap.orientationOf, hid,
    bind, Except.bind, Value.lookup]
  simp [hposition, hrotation, hmatrix, map_zero]
  rfl

theorem load_tree : LandmarkMap.load tree ["map.json"] = .ok [landmark] := by
  have hlisted : LandmarkMap.listed (.map [(.str "landmarks", .list [entry])]) = .ok [entry] := rfl
  have hentries : (LandmarkMap.entries [entry] : List (Except Fault (Landmark ℝ))) =
      [.ok landmark] := congrArg (fun l => [l]) entryOf_entry
  simp only [LandmarkMap.load, document_tree, hlisted, bind, Except.bind, LandmarkMap.landmarksOf,
    hentries]
  rfl

def graph : FrameGraph ℝ :=
  ⟨[⟨"camera", "base_link", identity⟩, ⟨"base_link", "camera", invert identity⟩]⟩

theorem ofStatic_config : FrameGraph.ofStatic config.transforms = .ok graph := by
  have hadd : FrameGraph.empty.addStatic mount = .ok graph := by
    unfold FrameGraph.addStatic
    rw [transform_mount]
    rfl
  have hone : FrameGraph.ofStatic config.transforms =
      (FrameGraph.empty.addStatic mount : Except Fault (FrameGraph ℝ)) >>= pure := rfl
  rw [hone, hadd]
  rfl

theorem lookup_camera : graph.lookup "base_link" "camera" = .found identity := by
  have hstep : graph.search "camera" (FrameGraph.leadingElsewhere graph.links "base_link")
      (graph.outgoing "base_link" identity) = some (compose identity (invert identity)) := by
    simp [FrameGraph.leadingElsewhere, graph, FrameGraph.outgoing, FrameGraph.search]
  have hidentity : compose identity (invert identity) = (identity : Transform ℝ) :=
    isRigid_identity.compose_invert
  have hne : "base_link" ≠ "camera" := by decide
  have htarget : graph.hasFrame "base_link" = true := rfl
  have hsource : graph.hasFrame "camera" = true := rfl
  unfold FrameGraph.lookup
  rw [if_neg hne, htarget, hsource, hstep, hidentity]
  rfl

def solver : PoseSolver ℝ := ⟨fun _ _ _ => .ok none, fun _ _ _ _ => .ok []⟩

def setup : Setup Nat ℝ :=
  Setup.ofConfig config "localizer" graph.lookup QuarterTurns.counter solver

def detection : Detection ℝ := ⟨"5", 0, "camera", identity⟩

def events : List Value :=
  [.map OriginScene.referenceEvent, .map (OriginScene.detectionsEvent ["5"])]

theorem reference_event : Event.reference OriginScene.referenceEvent =
    .ok (⟨0, identity⟩ : ReferencePose ℝ) := by
  have hread : Event.reference OriginScene.referenceEvent =
      .ok (⟨Binary.value 0, rigid Mat3.identity ((⟨0, 0, 0⟩ : Vec3 Float).map Scalar.ofFloat)⟩ :
        ReferencePose ℝ) := rfl
  rw [hread, map_zero, Binary.value_zero]
  rfl

theorem detections_event :
    Event.detections (OriginScene.detectionsEvent ["5"]) = .ok [detection] := by
  have hread : Event.detections (OriginScene.detectionsEvent ["5"]) =
      .ok [⟨"5", Binary.value 0, "camera",
        Transform.ofVectors ((⟨0, 0, 0⟩ : Vec3 Float).map (Scalar.ofFloat : Float → ℝ))
          ((⟨0, 0, 0⟩ : Vec3 Float).map Scalar.ofFloat)⟩] := rfl
  rw [hread, map_zero, Binary.value_zero, ofVectors, Rotation.ofVector_zero]
  rfl

/-- The localizer once the map is loaded and the reference pose is known. -/
def localizer : Localizer (Nat × List (Estimate ℝ)) ℝ :=
  (loaded (0, []) [landmark]).localizer.setReference ⟨0, identity⟩

theorem vehicleOnMap_identity :
    vehicleOnMap identity identity identity = (identity : Transform ℝ) := by
  have hinvert : compose identity (invert identity) = (identity : Transform ℝ) :=
    isRigid_identity.compose_invert
  rw [identity_compose] at hinvert
  rw [vehicleOnMap, identity_compose, identity_compose, hinvert]

theorem passed : Judgement.Passed setup.fuser (localizer.services setup.recording) detection
    landmark identity ⟨0, identity⟩ := by
  have hknown : Judgement.Known setup.fuser (localizer.services setup.recording) detection
      landmark := ⟨List.mem_singleton.mpr rfl, rfl⟩
  have hdistance : Gate.distanceSq detection.pose = 0 := by
    simp [Gate.distanceSq, Vec3.normSq, detection, identity, rigid, Vec3.dot, Vec3.zero]
  have hone : (Scalar.ofFloat (1 : Float) : ℝ) = 1 := Binary.value_one
  have hlimit : Gate.limitSq setup.fuser.gates.distance = .ok (1 * 1) := by
    change Gate.limitSq (Scalar.ofFloat (1 : Float) : ℝ) = _
    simp [Gate.limitSq, hone]
  have hwithin : Scalar.lt (1 * 1) (Gate.distanceSq detection.pose) = false := by
    rw [hdistance]
    norm_num
  have hage : Scalar.lt setup.fuser.gates.time (detection.stamp - 0) = false := by
    change Scalar.lt (Scalar.ofFloat (1 : Float) : ℝ) _ = false
    norm_num [hone, detection]
  have hnear : Scalar.lt setup.fuser.gates.position
      ((vehicleOnMap landmark.pose identity detection.pose).translation.sub
        (identity : Transform ℝ).translation).norm = false := by
    change Scalar.lt (Scalar.ofFloat (1 : Float) : ℝ) _ = false
    have hpose : vehicleOnMap landmark.pose identity detection.pose = identity :=
      vehicleOnMap_identity
    rw [hpose, hone]
    simp [Vec3.norm, Vec3.normSq, Vec3.dot, Vec3.sub]
  exact ⟨⟨⟨⟨⟨⟨hknown, rfl⟩, 1 * 1, hlimit, hwithin⟩,
    congrArg FrameReply.answer lookup_camera⟩, rfl⟩, rfl, hage⟩, rfl, rfl,
    hnear⟩

theorem returned_one : ∃ o, (Fuser.estimates (Fuser.returned setup.fuser
    (localizer.services setup.recording) setup.publish.recorded localizer.fuser [detection])) =
      [o] := by
  obtain ⟨e, hestimate⟩ := Judgement.estimate_exact setup.fuser detection
    (vehicleOnMap landmark.pose identity detection.pose)
  have hverdict := Judgement.verdict_of_passed passed
  rw [hestimate] at hverdict
  have hresult : (Fuser.process setup.fuser (localizer.services setup.recording)
      setup.publish.recorded localizer.fuser detection).result = .ok ⟨"5", .accepted e⟩ := by
    unfold Fuser.process Fuser.settle
    rw [hverdict]
    rfl
  refine ⟨e, ?_⟩
  simp only [Fuser.returned, hresult]
  rfl

/-- The replay publishes one estimate. -/
theorem published_one : ∃ e, publishedBy setup 0 [landmark] events none = [e] := by
  let s : State (Nat × List (Estimate ℝ)) ℝ := loaded (0, []) [landmark]
  let located : State (Nat × List (Estimate ℝ)) ℝ := { s with localizer := localizer, events := 1 }
  have hcollect : Registry.collect ([landmark].map .ok) = .ok ⟨[landmark]⟩ := rfl
  have hrun := (run_of_collect setup.recording (0, []) hcollect events).2
  have hkind : kindOf OriginScene.referenceEvent = .ok "reference_pose" := rfl
  have hfirst : step setup.recording s (.map OriginScene.referenceEvent) =
      ⟨.ok (), located, []⟩ := by
    rw [step_of_kind s hkind]
    simp only [dispatch, if_pos, reference, reference_event]
    rfl
  have hkind' : kindOf (OriginScene.detectionsEvent ["5"]) = .ok "detections" := rfl
  have hsecond : (step setup.recording located
      (.map (OriginScene.detectionsEvent ["5"]))).state.localizer =
      (Localizer.process setup.recording localizer (.float 0) [detection] none).state := by
    rw [step_of_kind located hkind', skipping_state]
    exact cycle_localizer setup.recording (located.numbered 2) detections_event
  have hsteps : (steps setup.recording s events).state =
      (step setup.recording located (.map (OriginScene.detectionsEvent ["5"]))).state := by
    simp only [steps, events, hfirst]
    split <;> rfl
  have hrecord := Fuser.record_processAll setup.fuser setup.publish
    (localizer.services setup.recording) localizer.fuser [detection]
  obtain ⟨e, he⟩ := returned_one
  rw [he] at hrecord
  refine ⟨e, ?_⟩
  unfold publishedBy
  rw [hrun, hsteps, hsecond]
  exact hrecord

end

end ReversedMount

/-- The camera is the parent of the vehicle, the quaternion of its mount has length two, and the
landmark comes from a file: one estimate is published, and it is rigid. -/
theorem run_publishes_rigidly_reversed_mount :
    FrameGraph.ofStatic ReversedMount.config.transforms = .ok ReversedMount.graph ∧
      LandmarkMap.load ReversedMount.tree ["map.json"] = .ok [ReversedMount.landmark] ∧
      ∃ e, publishedBy ReversedMount.setup 0 [ReversedMount.landmark] ReversedMount.events none =
        [e] ∧ e.pose.rotation.det = 1 := by
  have hrigid := run_publishes_rigidly ReversedMount.config "localizer"
    ReversedMount.ofStatic_config QuarterTurns.counter ReversedMount.solver 0
    ReversedMount.load_tree ReversedMount.events none
  obtain ⟨e, he⟩ := ReversedMount.published_one
  have hmem : e ∈ publishedBy ReversedMount.setup 0 [ReversedMount.landmark] ReversedMount.events
      none := by
    rw [he]
    exact List.mem_singleton.mpr rfl
  exact ⟨ReversedMount.ofStatic_config, ReversedMount.load_tree, e, he, hrigid.det_eq_one e hmem⟩

end Replay

end Fiducial
