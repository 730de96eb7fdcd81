import Fiducial.Localizer.Report
import Fiducial.Marker.Pose
import Fiducial.Registry
import Fiducial.Cell
import Fiducial.Config.Basic

/-!
# The localizer

The localizer holds the latest landmark map, the latest reference pose and the first calibration,
each in a cell that is replaced whole, and judges detections with them.  A new map is built before
the old one is given up, so a map with a fault changes nothing.

Markers seen by a camera become detections first.  A marker that cannot be located, or only with
too large an error, is reported and left out; it does not disturb the others.
-/

namespace Fiducial

/-- What a localizer is set up with. -/
structure Setup (σ α : Type) where
  name : String
  fuser : FuserConfig α
  /-- The pose of the second frame in the first. -/
  frames : String → String → FrameReply α
  publish : Publisher σ α
  markerSize : Value
  maxError : Measure
  solver : PoseSolver α

structure Localizer (σ α : Type) where
  registry : Cell (Registry α)
  reference : Cell (ReferencePose α)
  camera : Cell Camera
  fuser : Fuser.State σ

/-- A marker as a detector sees it. -/
structure Sighting where
  id : Value
  corners : Value

/-- What a camera saw at one time. -/
structure MarkerFrame where
  stamp : Value
  sensor : Value
  markers : List Sighting

/-- The result of a call to a localizer. -/
structure Reply (σ α β : Type) where
  result : Except Fault β
  state : Localizer σ α
  log : List Log.Entry

namespace Setup

variable {σ α : Type} [Scalar α]

/-- The setup of a configuration. -/
def ofConfig (c : Config) (name : String) (frames : String → String → FrameReply α)
    (publish : Publisher σ α) (solver : PoseSolver α) : Setup σ α where
  name := name
  fuser := {
    gates := c.gates.map Scalar.ofFloat, covariance := c.covariance.map Scalar.ofFloat,
    mapFrame := c.mapFrame.text, baseFrame := c.baseFrame.text }
  frames := frames
  publish := publish
  markerSize := .float c.markerSize.value
  maxError := c.maxError
  solver := solver

/-- What is reported when a localizer is set up. -/
def startLog (c : Config) (name : String) : List Log.Entry :=
  [.info ("min_marker_size: " ++ c.minMarkerSize.given.text),
    .info ("detection_mode: " ++ c.detectionMode.name),
    .info ("marker_size: " ++ c.markerSize.given.text),
    .info ("max_reproj_rmse_px: " ++ c.maxError.given.text),
    .info ("target_tag_ids: " ++ ",".intercalate c.targets),
    .info ("Setup of " ++ name ++ " is successful!")]

end Setup

namespace Localizer

variable {σ α : Type}

def new (published : σ) : Localizer σ α :=
  ⟨Cell.new (some Registry.empty), Cell.new none, Cell.new none, ⟨Tally.empty, published⟩⟩

/-- The landmarks in use. -/
def landmarks (l : Localizer σ α) : Registry α := l.registry.value.getD Registry.empty

def services (s : Setup σ α) (l : Localizer σ α) : Services α :=
  ⟨l.landmarks.lookup, s.frames, l.reference.value⟩

def mapLoadedText (r : Registry α) : String :=
  "landmark map loaded: " ++ digitText r.size ++ " landmarks (" ++ ",".intercalate r.ids ++ ")"

/-- Replaces the map, unless the new one has a fault. -/
def setLandmarks (l : Localizer σ α) (landmarks : List (Except Fault (Landmark α))) :
    Reply σ α (Registry α) :=
  match Registry.collect landmarks with
  | .error f => ⟨.error f, l, []⟩
  | .ok r => ⟨.ok r, { l with registry := l.registry.set (some r) }, [.info (mapLoadedText r)]⟩

def setReference (l : Localizer σ α) (r : ReferencePose α) : Localizer σ α :=
  { l with reference := l.reference.set (some r) }

/-- Accepts the first calibration only. -/
def setCamera (l : Localizer σ α) (c : Camera) : Reply σ α Bool :=
  let (accepted, camera) := l.camera.setOnce (some c)
  ⟨.ok accepted, { l with camera }, if accepted then [.info "camera info received"] else []⟩

variable [Scalar α]

/-- The report of a cycle after its detections were judged. -/
def reportOf (name : String) (stamp detected : Value) (outcomes : List (Outcome α)) :
    Except Fault (Report α) := do
  let accepted := Fuser.countAccepted outcomes
  let n ← detected.toInt
  let t ← stamp.toFloat
  return ⟨Scalar.ofFloat t, n, accepted, outcomes, Status.ofCounts name n accepted⟩

variable [Numerics α]

/-- One cycle: all detections are judged, then the report is made. -/
def process (s : Setup σ α) (l : Localizer σ α) (stamp : Value) (ds : List (Detection α))
    (detected : Option Value) : Reply σ α (Report α) :=
  let all := Fuser.processAll s.fuser (services s l) s.publish l.fuser ds
  let count := detected.getD (.int ds.length)
  ⟨all.result >>= reportOf s.name stamp count, { l with fuser := all.state }, all.log⟩

/-! ## Markers -/

def failedText (m : Sighting) : String := "marker " ++ m.id.text ++ " pose estimation failed: "

def droppedText (m : Sighting) (error bound : Float) : String :=
  "marker " ++ m.id.text ++ " dropped: reprojection rmse " ++ Binary.fixedText 3 error ++
    " px > " ++ Binary.fixedText 3 bound ++ " px"

/-- The detection of one marker, if it is located well enough, and what is reported about it.  The
stamp of the frame is read only for a marker that is used. -/
def detect (s : Setup σ α) (camera : Camera) (f : MarkerFrame) (m : Sighting) :
    Except Fault (Option (Detection α)) × List Log.Entry :=
  match MarkerPose.locate s.solver camera s.markerSize m.corners with
  | .error cause => (.ok none, [.faultWarning (failedText m) cause])
  | .ok p =>
    if p.exceeds (Scalar.ofFloat s.maxError.value) then
      (.ok none, [.warning (droppedText m (Scalar.toFloat p.error) s.maxError.value)])
    else
      (do
        let id ← m.id.name
        let t ← f.stamp.toFloat
        return some ⟨id, Scalar.ofFloat t, ← f.sensor.name, p.pose⟩, [])

/-- The detections of the markers that are used, in order. -/
def detectAll (s : Setup σ α) (camera : Camera) (f : MarkerFrame) :
    List Sighting → Except Fault (List (Detection α)) × List Log.Entry
  | [] => (.ok [], [])
  | m :: ms =>
    match detect s camera f m with
    | (.error fault, log) => (.error fault, log)
    | (.ok d, log) =>
      let (rest, more) := detectAll s camera f ms
      (rest.map (d.toList ++ ·), log ++ more)

/-- The detections of a frame; there are none to speak of before the first calibration. -/
def detections (s : Setup σ α) (l : Localizer σ α) (f : MarkerFrame) :
    Except Fault (Option (List (Detection α))) × List Log.Entry :=
  match l.camera.value with
  | none => (.ok none, [.debug "No cam_info has been received."])
  | some camera =>
    let (ds, log) := detectAll s camera f f.markers
    (ds.map some, log)

/-- A cycle from markers to a report. -/
def processFrame (s : Setup σ α) (l : Localizer σ α) (f : MarkerFrame) :
    Reply σ α (Option (Report α)) :=
  match detections s l f with
  | (.error fault, log) => ⟨.error fault, l, log⟩
  | (.ok none, log) => ⟨.ok none, l, log⟩
  | (.ok (some ds), log) =>
    let r := process s l f.stamp ds (some (.int f.markers.length))
    ⟨r.result.map some, r.state, log ++ r.log⟩

end Localizer
end Fiducial
