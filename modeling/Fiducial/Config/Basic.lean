import Fiducial.Gate.Basic

/-!
# Configuration

A configuration keeps its numbers in the form in which they were given, together with the doubles
that they stand for, and its frame names and fixed transforms as data.  So it can be shown as it
was written, and the gates and the covariance can be made from it without a further check.
-/

namespace Fiducial

inductive DetectionMode where
  | normal
  | fast
  | videoFast
deriving DecidableEq, Repr

namespace DetectionMode

def all : List DetectionMode := [normal, fast, videoFast]

def name : DetectionMode → String
  | normal => "DM_NORMAL"
  | fast => "DM_FAST"
  | videoFast => "DM_VIDEO_FAST"

def ofValue (v : Value) : Except Fault DetectionMode :=
  match v.name with
  | .error f => .error f
  | .ok name =>
    match all.find? (·.name = Text.trim name) with
    | some m => .ok m
    | none => .error (.badDetectionMode v)

end DetectionMode

/-- A number as it was given and as it counts. -/
structure Measure where
  given : Value
  value : Float
  reads : given.toFloat = .ok value

namespace Measure

def ofValue (v : Value) : Except Fault Measure :=
  match h : v.toFloat with
  | .ok x => .ok ⟨v, x, h⟩
  | .error f => .error f

end Measure

/-- The pose of one frame of the vehicle in another, as data. -/
structure StaticTransform where
  parent : Value
  child : Value
  translation : Value
  /-- A quaternion. -/
  rotation : Value
deriving Repr

structure Config where
  targets : List String
  covariance : Covariance Float
  distance : Measure
  time : Measure
  position : Measure
  /-- The length of the sides of a marker. -/
  markerSize : Measure
  /-- The largest error of projection, in pixels, at which a marker is used. -/
  maxError : Measure
  detectionMode : DetectionMode
  minMarkerSize : Measure
  mapFrame : Value
  baseFrame : Value
  transforms : List StaticTransform

namespace Config

def gates (c : Config) : GateConfig Float :=
  ⟨c.targets, c.distance.value, c.time.value, c.position.value⟩

end Config

def GateConfig.map {α β : Type} (f : α → β) (g : GateConfig α) : GateConfig β :=
  ⟨g.whitelist, f g.distance, f g.time, f g.position⟩

end Fiducial
