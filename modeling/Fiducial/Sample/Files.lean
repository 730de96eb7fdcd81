import Fiducial.Camera.Lens
import Fiducial.Files.Tree
import Fiducial.Sample.Scene
import Fiducial.Yaml.Printer

/-!
# The files of the sample recording

The sample recording is three files in one directory: a configuration, a landmark map and events.
If all three exist they are left alone, unless they are to be overwritten; otherwise all three are
written.
-/

namespace Fiducial.Sample

def number (x : Float) : Value := .float x

def vector (v : Vec3 Float) : Value := .list (v.toList.map .float)

def fields (es : List (String × Value)) : Value := .map (es.map fun e => (.str e.1, e.2))

/-! ## Configuration and map -/

/-- The variances of the base covariance. -/
def variances : List Float := [0.02, 0.02, 0.02, 0.01, 0.01, 0.01]

def covarianceEntries : List Float :=
  (List.range 36).map fun k => if k % 7 = 0 then variances.getD (k / 7) 0.0 else 0.0

def cameraEntry : Value :=
  fields [("parent", .str "base_link"), ("child", .str "camera"),
    ("translation", vector cameraPosition),
    ("rotation_xyzw", .list (cameraRotation.toList.map .float))]

/-- The configuration of the sample. -/
def config : Value :=
  fields [("target_tag_ids", .list (targets.map .str)),
    ("base_covariance", .list (covarianceEntries.map .float)),
    ("distance_threshold_m", .float 13.0), ("ekf_time_tolerance_s", .float 0.5),
    ("ekf_position_tolerance_m", .float 10.0), ("marker_size_m", .float 0.6),
    ("max_reproj_rmse_px", .float 2.0), ("detection_mode", .str "DM_NORMAL"),
    ("min_marker_size", .float 0.02), ("map_frame", .str "map"), ("base_frame", .str "base_link"),
    ("static_transforms", .list [cameraEntry])]

def Place.entry (p : Place) : Value :=
  fields ([("id", .str p.id), ("position", vector p.position)] ++
    (p.turn.toList.map fun r => ("rvec", vector r)))

/-- The landmark map of the sample. -/
def landmarkMap : Value := fields [("landmarks", .list (places.map Place.entry))]

/-! ## Events -/

/-- Times are written to the microsecond. -/
def stampOf (t : Float) : Value := .float (Binary.roundedPlaces 6 t)

/-- The reference pose of a cycle, which comes a little before it. -/
def referenceEvent (c : Cycle Float) : Value :=
  fields [("type", .str "reference_pose"), ("t", stampOf (c.time - 0.05)),
    ("position", vector c.reference),
    ("orientation_xyzw", .list [.float 0.0, .float 0.0, .float 0.0, .float 1.0])]

def Sight.entry (s : Sight Float) : Value :=
  fields [("id", .str s.id), ("rvec", vector s.rotation), ("tvec", vector s.position)]

def detectionsEvent (c : Cycle Float) : Value :=
  fields [("type", .str "detections"), ("t", stampOf c.time), ("sensor_frame", .str "camera"),
    ("detections", .list (c.sights.map Sight.entry))]

def eventsOf (d : Drive Float) (cycles : Nat) : List Value :=
  (List.range cycles).flatMap fun k =>
    let c := d.cycle k
    [referenceEvent c, detectionsEvent c]

/-- The lines of an event file. -/
def eventLines (events : List Value) : String :=
  String.join (events.map fun e => Json.write Json.spaced e ++ "\n")

/-! ## Files -/

/-- What a sample is asked for, as data. -/
structure Request where
  cycles : Value := .int 30
  speed : Value := .float 1.0
  period : Value := .float 1.0
  /-- The seed of the noise, a whole number that is not negative. -/
  seed : Value := .int 0
  overwrite : Bool := false

/-- The events of a request, with noise that comes from its seed. -/
def Request.events (r : Request) (noise : Int → Nat → Float × Float) :
    Except Fault (List Value) := do
  let seed ← r.seed.toInt
  if seed < 0 then throw (.badValue "expected non-negative integer")
  let cycles := (max 1 (← r.cycles.toInt)).toNat
  let period ← r.period.toFloat
  let speed ← r.speed.toFloat
  return eventsOf ⟨speed, period, noise seed, Rotation.toVector⟩ cycles

structure Paths where
  config : Path
  landmarks : Path
  events : Path

def pathsIn (directory : Path) : Paths :=
  ⟨directory ++ ["landmark_localizer.yaml"], directory ++ ["landmarks.yaml"],
    directory ++ ["events.jsonl"]⟩

def Paths.allExist (p : Paths) (t : FileTree) : Bool :=
  t.exists? p.config && t.exists? p.landmarks && t.exists? p.events

/-- The tree after an attempt to do something with it, and the fault if it failed. -/
abbrev Attempt := Except Fault Unit × FileTree

def attempt (t : FileTree) (r : Except Fault FileTree) (next : FileTree → Attempt) :
    Attempt :=
  match r with
  | .ok t' => next t'
  | .error f => (.error f, t)

/-- Writes the three files one after the other; what was written before a fault stays. -/
def writeAll (t : FileTree) (directory : Path) (events : Except Fault (List Value)) : Attempt :=
  let p := pathsIn directory
  attempt t (t.makeDirectories directory) fun t =>
    attempt t (t.write p.config (Yaml.print config).toUTF8) fun t =>
      attempt t (t.write p.landmarks (Yaml.print landmarkMap).toUTF8) fun t =>
        match events with
        | .error f => (.error f, t)
        | .ok es =>
          attempt t (t.write p.events (eventLines es).toUTF8) fun t => (.ok (), t)

/-- Makes sure that a sample is in a directory. -/
def ensure (noise : Int → Nat → Float × Float) (t : FileTree) (directory : Path) (r : Request) :
    Attempt :=
  if !r.overwrite && (pathsIn directory).allExist t then (.ok (), t)
  else writeAll t directory (r.events noise)

end Fiducial.Sample
