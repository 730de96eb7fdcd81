import Fiducial.Localizer.Basic
import Fiducial.PoseLog

/-!
# A scene at the origin

A landmark, the sensor, the vehicle and its reference pose all stand at the origin of the map.  The
general theorems are tried on this scene, where every distance is zero and only the bounds decide.
-/

namespace Fiducial
namespace OriginScene

/-- A power as a product; the squares and cubes of this scene are exact in every library. -/
def product (a : Float) : Nat → Float
  | 0 => 1
  | n + 1 => product a n * a

scoped instance : Numerics Float := .plain product

def landmark : Landmark Float := ⟨"5", Transform.identity⟩

def reference : ReferencePose Float := ⟨0, Transform.identity⟩

def detectionAt (stamp : Float) : Detection Float := ⟨"5", stamp, "camera", Transform.identity⟩

def detection : Detection Float := detectionAt 0

/-- Every frame stands at the origin. -/
def frames (_ _ : String) : FrameReply Float := .answer (.found Transform.identity)

def services : Services Float := ⟨fun _ => some landmark, frames, some reference⟩

/-- Bounds of ten metres for the range, of one metre for the position, and of `time` seconds. -/
def config (time : Float) : FuserConfig Float where
  gates := ⟨["5"], 10, time, 1⟩
  covariance := ⟨List.replicate 36 1, rfl⟩
  mapFrame := "map"
  baseFrame := "base_link"

/-- Counts the estimates that are published. -/
def counter : Publisher Nat Float := fun n _ => .ok (n + 1)

/-- A solver that locates no marker. -/
def noSolver : PoseSolver Float := ⟨fun _ _ _ => .ok none, fun _ _ _ _ => .ok []⟩

def setup : Setup Nat Float where
  name := "localizer"
  fuser := config 1
  frames := frames
  publish := counter
  markerSize := .float 0.6
  maxError := ⟨.float 2, 2, rfl⟩
  solver := noSolver

def loggingSetup : Setup PoseLog Float where
  name := "localizer"
  fuser := config 1
  frames := frames
  publish := PoseLog.publish 0
  markerSize := .float 0.6
  maxError := ⟨.float 2, 2, rfl⟩
  solver := noSolver

def point : Value := .list [.float 0, .float 0, .float 0]

def referenceEvent : List (Value × Value) :=
  [(.str "type", .str "reference_pose"), (.str "t", .float 0), (.str "position", point)]

/-- A cycle in which the landmarks of these ids are seen at the origin. -/
def detectionsEvent (ids : List String) : List (Value × Value) :=
  [(.str "type", .str "detections"), (.str "t", .float 0), (.str "sensor_frame", .str "camera"),
    (.str "detections", .list (ids.map fun id =>
      .map [(.str "id", .str id), (.str "rvec", point), (.str "tvec", point)]))]

/-- A map of landmarks with these ids at the origin. -/
def landmarksEvent (ids : List String) : List (Value × Value) :=
  [(.str "type", .str "landmarks"),
    (.str "landmarks", .list (ids.map fun id =>
      .map [(.str "id", .str id), (.str "position", point)]))]

/-- A configuration document with the given distance bound. -/
def document (distance : Float) : Value :=
  .map [(.str "target_tag_ids", .list [.str "5"]),
    (.str "base_covariance", .list (List.replicate 36 (.float 1))),
    (.str "distance_threshold_m", .float distance),
    (.str "ekf_time_tolerance_s", .float 1),
    (.str "ekf_position_tolerance_m", .float 1)]

theorem counter_neverRefuses (n : Nat) (e : Estimate Float) : ∃ m, counter n e = .ok m :=
  ⟨n + 1, rfl⟩

end OriginScene
end Fiducial
