import Fiducial.Proofs.DoubleArithmetic
import Fiducial.Proofs.Failures
import Fiducial.Proofs.SnapshotSimulation
import Fiducial.Proofs.ValueContents

/-!
# From markers to detections

Whether a marker is used depends on the marker and the calibration alone: its pose must be found, be
plausible, and have an error that is a number and no larger than the bound.  So the detections of a
frame are read off its markers: the markers that are used, in order, each with its own id and pose
and with the stamp and the sensor of the frame.  A marker that is left out leaves no trace among
them, and only what is used is judged and counted in the outcomes of a report.
-/

namespace Fiducial

/-! ## Poses -/

namespace Double

theorem isNaN_of_le {x bound : Float} (hle : x ≤ bound) : x.isNaN = false := by
  rw [le_unpack] at hle
  unfold Float.Model.UnpackedFloat.le at hle
  cases hcompare : Float.Model.UnpackedFloat.compare x.toModel.unpack bound.toModel.unpack with
  | none =>
      rw [hcompare] at hle
      cases hle
  | some o =>
      by_contra hnan
      have hnone := (compare_eq_none_iff x.toModel.unpack bound.toModel.unpack).mpr
        (.inl (Bool.eq_true_of_not_eq_false hnan))
      rw [hnone] at hcompare
      cases hcompare

end Double

namespace MarkerPose

/-- The numbers by which the pose of a marker is found and checked. -/
structure Fit (α : Type) where
  calibration : Calibration α
  object : List (Vec3 α)
  image : List (Pixel α)
  rotation : Vec3 α
  translation : Vec3 α

section Fits

variable {α : Type} [Scalar α]

/-- What has been done when a marker is located. -/
structure Fit.Locates (f : Fit α) (solver : PoseSolver α) (camera : Camera) (size seen : Value)
    (p : MarkerPose α) : Prop where
  image_eq : ∃ ps, Marker.seenCorners seen = .ok ps ∧
    f.image = ps.map fun q => q.map Scalar.ofFloat
  object_eq : ∃ side, Marker.sizeOf size = .ok side ∧
    f.object = Marker.corners (Scalar.ofFloat side)
  calibration_eq : ∃ c, camera.calibration = .ok c ∧ f.calibration = c.map Scalar.ofFloat
  solved : solver.solve f.calibration f.object f.image = .ok (some (f.rotation, f.translation))
  pose_eq : p.pose = Transform.ofVectors f.rotation f.translation
  checked : isPlausible p.pose = true
  error_eq : solver.reprojectionError f.calibration f.rotation f.translation f.object f.image =
    .ok p.error

theorem locate_ok_iff {solver : PoseSolver α} {camera : Camera} {size seen : Value}
    {p : MarkerPose α} : locate solver camera size seen = .ok p ↔
      ∃ f : Fit α, f.Locates solver camera size seen p := by
  unfold locate
  constructor
  · intro hlocate
    obtain ⟨pixels, hpixels, hlocate⟩ := exists_of_bind_ok hlocate
    obtain ⟨side, hside, hlocate⟩ := exists_of_bind_ok hlocate
    obtain ⟨calibration, hcalibration, hlocate⟩ := exists_of_bind_ok hlocate
    obtain ⟨solution, hsolution, hlocate⟩ := exists_of_bind_ok hlocate
    cases solution with
    | none => cases hlocate
    | some found =>
        dsimp only at hlocate
        split at hlocate
        next => cases hlocate
        next hplausible =>
          obtain ⟨error, herror, hlocate⟩ := exists_of_bind_ok hlocate
          cases hlocate
          exact ⟨⟨_, _, _, found.1, found.2⟩,
            { image_eq := ⟨pixels, hpixels, rfl⟩
              object_eq := ⟨side, hside, rfl⟩
              calibration_eq := ⟨calibration, hcalibration, rfl⟩
              solved := hsolution
              pose_eq := rfl
              checked := by simpa using hplausible
              error_eq := herror }⟩
  · rintro ⟨f, hfit⟩
    obtain ⟨pixels, hpixels, himage⟩ := hfit.image_eq
    obtain ⟨side, hside, hobject⟩ := hfit.object_eq
    obtain ⟨calibration, hcalibration, hcamera⟩ := hfit.calibration_eq
    have hsolution := hfit.solved
    have herror := hfit.error_eq
    rw [himage, hobject, hcamera] at hsolution herror
    rw [hpixels, hside, hcalibration]
    simp only [bind, Except.bind, hsolution, herror, ← hfit.pose_eq, hfit.checked, Bool.not_true,
      Bool.false_eq_true, if_false]
    rfl

end Fits

end MarkerPose

namespace Localizer

section Frames

variable {σ : Type} (s : Setup σ Float) (camera : Camera)

/-- The pose with which a marker is used. -/
def usedPose? (m : Sighting) : Option (MarkerPose Float) :=
  match MarkerPose.locate s.solver camera s.markerSize m.corners with
  | .error _ => none
  | .ok p => if p.error.isNaN = false ∧ p.error ≤ s.maxError.value then some p else none

/-- The markers that are used, with their poses. -/
def used (ms : List Sighting) : List (Sighting × MarkerPose Float) :=
  ms.filterMap fun m => (usedPose? s camera m).map (m, ·)

def detectionOf (f : MarkerFrame) (u : Sighting × MarkerPose Float) :
    Except Fault (Detection Float) := do
  let id ← u.1.id.name
  let t ← f.stamp.toFloat
  return ⟨id, t, ← f.sensor.name, u.2.pose⟩

variable {s camera}

theorem exceeds_iff (p : MarkerPose Float) (bound : Float) :
    p.exceeds (Scalar.ofFloat bound) = false ↔ p.error.isNaN = false ∧ p.error ≤ bound := by
  have hle : p.exceeds (Scalar.ofFloat bound) = !decide (p.error ≤ bound) := rfl
  rw [hle, Bool.not_eq_false', decide_eq_true_iff]
  exact ⟨fun hbound => ⟨Double.isNaN_of_le hbound, hbound⟩, And.right⟩

theorem detect_result (f : MarkerFrame) (m : Sighting) :
    (detect s camera f m).1 =
      match usedPose? s camera m with
      | none => .ok none
      | some p => (detectionOf f (m, p)).map some := by
  unfold detect usedPose?
  cases MarkerPose.locate s.solver camera s.markerSize m.corners with
  | error cause => rfl
  | ok p =>
      dsimp only
      cases hexceeds : p.exceeds (Scalar.ofFloat s.maxError.value) with
      | true =>
          have hnot := mt (exceeds_iff p s.maxError.value).mpr (by simp [hexceeds])
          rw [if_pos rfl, if_neg hnot]
      | false =>
          rw [if_neg Bool.false_ne_true, if_pos ((exceeds_iff p _).mp hexceeds)]
          dsimp only [detectionOf]
          cases m.id.name with
          | error g => rfl
          | ok id =>
              cases f.stamp.toFloat with
              | error g => rfl
              | ok t => cases f.sensor.name <;> rfl

theorem detectAll_cons (f : MarkerFrame) (m : Sighting) (ms : List Sighting) :
    (detectAll s camera f (m :: ms)).1 =
      (detect s camera f m).1 >>= fun d => (detectAll s camera f ms).1.map (d.toList ++ ·) := by
  rw [detectAll]
  cases detect s camera f m with
  | mk result log => cases result <;> rfl

theorem used_cons (m : Sighting) (ms : List Sighting) :
    used s camera (m :: ms) =
      match usedPose? s camera m with
      | none => used s camera ms
      | some p => (m, p) :: used s camera ms := by
  unfold used
  rw [List.filterMap_cons]
  cases usedPose? s camera m <;> rfl

/-- The detections are those of the markers that are used. -/
theorem detectAll_result (f : MarkerFrame) (ms : List Sighting) :
    (detectAll s camera f ms).1 = (used s camera ms).mapM (detectionOf f) := by
  -- An unused marker puts nothing in front of the detections of the rest.
  induction ms with
  | nil => rfl
  | cons m ms ih =>
      rw [detectAll_cons, detect_result, used_cons, ih]
      cases usedPose? s camera m with
      | none => cases (used s camera ms).mapM (detectionOf f) <;> rfl
      | some p =>
          dsimp only
          rw [List.mapM_cons]
          cases detectionOf f (m, p) with
          | error g => rfl
          | ok d => cases (used s camera ms).mapM (detectionOf f) <;> rfl

/-! ## Frames -/

theorem mem_of_mem_used {u : Sighting × MarkerPose Float} {ms : List Sighting}
    (hu : u ∈ used s camera ms) : u.1 ∈ ms ∧ usedPose? s camera u.1 = some u.2 := by
  obtain ⟨m, hm, hpose⟩ := List.mem_filterMap.mp hu
  obtain ⟨p, hp, rfl⟩ := Option.map_eq_some_iff.mp hpose
  exact ⟨hm, hp⟩

/-- The stamp of the frame is a number, and its sensor and the ids of the markers that are used can
be written. -/
structure IsReadable (f : MarkerFrame) (us : List (Sighting × MarkerPose Float)) (t : Float) :
    Prop where
  stamp : f.stamp.toFloat = .ok t
  sensor : f.sensor.isWritable = true
  ids : ∀ u ∈ us, u.1.id.isWritable = true

theorem isReadable_of_texts {f : MarkerFrame} {t : Float} {sensor : String}
    (hstamp : f.stamp.toFloat = .ok t) (hsensor : f.sensor = .str sensor)
    (hids : ∀ m ∈ f.markers, ∃ id, m.id = .str id) :
    IsReadable f (used s camera f.markers) t := by
  refine ⟨hstamp, by simp [hsensor, Value.isWritable], fun u hu => ?_⟩
  obtain ⟨id, hid⟩ := hids u.1 (mem_of_mem_used hu).1
  simp [hid, Value.isWritable]

theorem usedPose_eq_some_iff {m : Sighting} {p : MarkerPose Float} :
    usedPose? s camera m = some p ↔
      MarkerPose.locate s.solver camera s.markerSize m.corners = .ok p ∧
        p.error.isNaN = false ∧ p.error ≤ s.maxError.value := by
  unfold usedPose?
  cases MarkerPose.locate s.solver camera s.markerSize m.corners with
  | error cause => simp
  | ok q =>
      dsimp only
      split
      next hused =>
        constructor
        · rintro ⟨⟩
          exact ⟨rfl, hused⟩
        · rintro ⟨⟨⟩, _⟩
          rfl
      next hunused =>
        refine iff_of_false nofun ?_
        rintro ⟨⟨⟩, hused⟩
        exact hunused hused

theorem detectionOf_readable {f : MarkerFrame} {us : List (Sighting × MarkerPose Float)} {t : Float}
    (hf : IsReadable f us t) {u : Sighting × MarkerPose Float} (hu : u ∈ us) :
    detectionOf f u = .ok ⟨u.1.id.text, t, f.sensor.text, u.2.pose⟩ := by
  unfold detectionOf
  rw [Value.name_of_isWritable (hf.ids u hu), hf.stamp, Value.name_of_isWritable hf.sensor]
  rfl

theorem detectionOf_ok {f : MarkerFrame} {u : Sighting × MarkerPose Float} {d : Detection Float}
    (hread : detectionOf f u = .ok d) : d.id = u.1.id.text ∧ d.pose = u.2.pose := by
  obtain ⟨id, hid, hread⟩ := exists_of_bind_ok hread
  obtain ⟨t, _, hread⟩ := exists_of_bind_ok hread
  obtain ⟨sensor, _, hread⟩ := exists_of_bind_ok hread
  cases hread
  exact ⟨Value.eq_text_of_name hid, rfl⟩

theorem detectionOf_error_iff {f : MarkerFrame} {u : Sighting × MarkerPose Float} :
    (∃ g, detectionOf f u = .error g) ↔
      u.1.id.isWritable = false ∨ (∃ g, f.stamp.toFloat = .error g) ∨
        f.sensor.isWritable = false := by
  simp only [detectionOf, Value.name]
  cases u.1.id.isWritable <;> cases f.stamp.toFloat <;> cases f.sensor.isWritable <;>
    simp [bind, Except.bind, pure, Except.pure]

theorem detections_camera {l : Localizer σ Float} (hcamera : l.camera.value = some camera)
    (f : MarkerFrame) :
    (detections s l f).1 = ((used s camera f.markers).mapM (detectionOf f)).map some := by
  unfold detections
  rw [hcamera]
  dsimp only
  rw [← detectAll_result]

theorem detections_none_iff (s : Setup σ Float) (l : Localizer σ Float) (f : MarkerFrame) :
    (detections s l f).1 = .ok none ↔ l.camera.value = none := by
  cases hcamera : l.camera.value with
  | none =>
      unfold detections
      rw [hcamera]
      exact iff_of_true rfl rfl
  | some camera =>
      rw [detections_camera hcamera]
      refine iff_of_false ?_ nofun
      cases (used s camera f.markers).mapM (detectionOf f) <;> nofun

/-- What a report says of the markers of a frame, of which some are used. -/
structure ReportsMarkers (ms : List Sighting) (us : List (Sighting × MarkerPose Float))
    (r : Report Float) : Prop where
  detected : r.detected = ms.length
  accepted_le : r.accepted ≤ r.outcomes.length
  outcomes_le : r.outcomes.length ≤ ms.length
  ids : r.outcomes.map (·.id) = us.map (·.1.id.text)
  status : r.status.level = .ok ↔ 0 < ms.length

/-- What becomes of a frame at a localizer with the given calibration. -/
structure FrameAccount [Numerics Float] (s : Setup σ Float) (l : Localizer σ Float)
    (camera : Option Camera) (f : MarkerFrame) : Prop where
  uncalibrated : (detections s l f).1 = .ok none ↔ camera = none
  unchanged : camera = none →
    (processFrame s l f).result = .ok none ∧ (processFrame s l f).state = l
  detected : ∀ c t, camera = some c → IsReadable f (used s c f.markers) t →
    (detections s l f).1 = .ok (some ((used s c f.markers).map fun u =>
      ⟨u.1.id.text, t, f.sensor.text, u.2.pose⟩))
  fails_iff : ∀ c, camera = some c →
    ((∃ g, (detections s l f).1 = .error g) ↔ ∃ u ∈ used s c f.markers,
      u.1.id.isWritable = false ∨ (∃ g, f.stamp.toFloat = .error g) ∨
        f.sensor.isWritable = false)
  unused : ∀ c before m after, camera = some c → f.markers = before ++ m :: after →
    usedPose? s c m = none →
      (detections s l f).1 = (detections s l ⟨f.stamp, f.sensor, before ++ after⟩).1
  poses : ∀ ds, (detections s l f).1 = .ok (some ds) →
    ∀ d ∈ ds, d.pose.isFinite = true ∧ 0 < d.pose.translation.z
  reported : ∀ r, (processFrame s l f).result = .ok (some r) →
    ∃ c, camera = some c ∧ ReportsMarkers f.markers (used s c f.markers) r

section Account

variable {l : Localizer σ Float} {f : MarkerFrame} {ds : List (Detection Float)}

theorem exists_used (hfound : (detections s l f).1 = .ok (some ds)) :
    ∃ c, l.camera.value = some c ∧ (used s c f.markers).mapM (detectionOf f) = .ok ds := by
  cases hcamera : l.camera.value with
  | none =>
      rw [(detections_none_iff s l f).mpr hcamera] at hfound
      cases hfound
  | some c =>
      rw [detections_camera hcamera] at hfound
      cases hused : (used s c f.markers).mapM (detectionOf f) with
      | error g =>
          rw [hused] at hfound
          cases hfound
      | ok ds' =>
          rw [hused] at hfound
          cases hfound
          exact ⟨c, rfl, hused⟩

theorem poses_of_detections (hfound : (detections s l f).1 = .ok (some ds)) :
    ∀ d ∈ ds, d.pose.isFinite = true ∧ 0 < d.pose.translation.z := by
  obtain ⟨c, _, hused⟩ := exists_used hfound
  refine forall_of_mapM_ok (fun u hu d hread => ?_) hused
  obtain ⟨_, hpose⟩ := mem_of_mem_used hu
  obtain ⟨hlocate, _⟩ := usedPose_eq_some_iff.mp hpose
  obtain ⟨_, hfit⟩ := MarkerPose.locate_ok_iff.mp hlocate
  rw [(detectionOf_ok hread).2]
  obtain ⟨hfinite, hahead⟩ := (Bool.and_eq_true _ _).mp hfit.checked
  exact ⟨hfinite, of_decide_eq_true hahead⟩

theorem level_ofCounts (name : String) (detected accepted : Int) :
    (Status.ofCounts name detected accepted).level = .ok ↔ 0 < detected := by
  unfold Status.ofCounts
  split
  next hpositive => exact iff_of_true rfl hpositive
  next hnone => exact iff_of_false nofun hnone

theorem reportsMarkers_of_result [Numerics Float] {r : Report Float}
    (hresult : (processFrame s l f).result = .ok (some r)) :
    ∃ c, l.camera.value = some c ∧ ReportsMarkers f.markers (used s c f.markers) r := by
  -- Outcomes, detections and used markers have the same ids one by one, so there are as many.
  obtain ⟨ds, hfound, hcycle⟩ := report_frame hresult
  obtain ⟨c, hcamera, hused⟩ := exists_used hfound
  obtain ⟨os, hall, hreport⟩ := cycle_returns hcycle
  obtain ⟨n, t, hcount, _, rfl⟩ := reportOf_ok_iff.mp hreport
  obtain rfl : (f.markers.length : Int) = n := Except.ok.inj hcount
  have hids : os.map (·.id) = ds.map (·.id) :=
    map_eq_of_results (fun d o hd => Fuser.id_of_outcomeOf hd) (Fuser.outcomes_of_processAll hall)
  have hdetections : ds.map (·.id) = (used s c f.markers).map (·.1.id.text) :=
    map_eq_of_results (fun u d hread => (detectionOf_ok hread).1) (mapM_ok_iff.mp hused)
  have hlength : os.length = (used s c f.markers).length := by
    simpa using congrArg List.length (hids.trans hdetections)
  refine ⟨c, hcamera, ?_⟩
  constructor
  case detected => rfl
  case accepted_le => exact List.countP_le_length
  case outcomes_le =>
    rw [hlength]
    exact List.length_filterMap_le _ _
  case ids => exact hids.trans hdetections
  case status =>
    rw [level_ofCounts]
    exact Int.natCast_pos

end Account

theorem frameAccount [Numerics Float] (s : Setup σ Float) (l : Localizer σ Float)
    (f : MarkerFrame) : FrameAccount s l l.camera.value f := by
  constructor
  case uncalibrated => exact detections_none_iff s l f
  case unchanged =>
    intro hcamera
    unfold processFrame detections
    rw [hcamera]
    exact ⟨rfl, rfl⟩
  case detected =>
    intro c t hcamera hf
    have hread : (used s c f.markers).map (detectionOf f) =
        ((used s c f.markers).map fun u =>
          (⟨u.1.id.text, t, f.sensor.text, u.2.pose⟩ : Detection Float)).map .ok := by
      rw [List.map_map]
      exact List.map_congr_left fun u hu => detectionOf_readable hf hu
    rw [detections_camera hcamera, mapM_ok_iff.mpr hread]
    rfl
  case fails_iff =>
    intro c hcamera
    rw [detections_camera hcamera]
    simp only [← detectionOf_error_iff, ← exists_mapM_error_iff]
    cases (used s c f.markers).mapM (detectionOf f) <;> simp [Except.map]
  case unused =>
    intro c before m after hcamera hmarkers hunused
    rw [detections_camera hcamera, detections_camera hcamera, hmarkers]
    have hsame : used s c (before ++ m :: after) = used s c (before ++ after) := by
      simp [used, List.filterMap_append, hunused]
    rw [hsame]
    rfl
  case poses =>
    intro ds hfound
    exact poses_of_detections hfound
  case reported =>
    intro r hresult
    exact reportsMarkers_of_result hresult

/-- What becomes of a frame after any calls of a new localizer, of which the first calibration
counts. -/
theorem frame_accounted [Numerics Float] (s : Setup σ Float) (published : σ)
    (calls : List (Call Float)) (f : MarkerFrame) :
    FrameAccount s (afterAll s (new published) calls) (firstCamera calls) f := by
  have hsnapshot := snapshot_afterAll s (new published) calls
  rw [snapshot_new, foldl_after_initial] at hsnapshot
  have hcamera : (afterAll s (new published) calls).camera.value = firstCamera calls :=
    congrArg Snapshot.camera hsnapshot
  rw [← hcamera]
  exact frameAccount s _ f

end Frames

/-! ## A frame of three markers -/

namespace ThreeMarkers

/-- Every marker is found one metre ahead and projected to the corner of the image. -/
def solver : PoseSolver Float :=
  ⟨fun _ _ _ => .ok (some (⟨0, 0, 0⟩, ⟨0, 0, 1⟩)), fun _ _ _ _ => .ok (List.replicate 4 ⟨0, 0⟩)⟩

def setup : Setup Nat Float := { OriginScene.setup with solver }

def camera : Camera where
  matrix := .list [.list [.float 1, .float 0, .float 0], .list [.float 0, .float 1, .float 0],
    .list [.float 0, .float 0, .float 1]]
  distortion := .list []

/-- Four corners in one point of the image. -/
def cornersAt (x : Float) : Value := .list (List.replicate 4 (.list [.float x, .float x]))

/-- The second marker is seen too far from its projection, and the third has no corners. -/
def frame : MarkerFrame where
  stamp := .float 0
  sensor := .str "camera"
  markers := [⟨.str "5", cornersAt 0⟩, ⟨.str "6", cornersAt 9⟩, ⟨.str "7", .null⟩]

theorem frame_accounted_three :
    ∃ ds, (detections setup (afterAll setup (new 0) [.camera camera]) frame).1 = .ok (some ds) ∧
      ds.map (·.id) = ["5"] := by
  have haccount := frame_accounted setup 0 [.camera camera] frame
  have hreadable : IsReadable frame (used setup camera frame.markers) 0 :=
    isReadable_of_texts rfl rfl (by simp [frame])
  refine ⟨_, haccount.detected camera 0 rfl hreadable, ?_⟩
  rw [List.map_map]
  decide +kernel

end ThreeMarkers
end Localizer
end Fiducial
