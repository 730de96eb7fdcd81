import Fiducial.Covariance
import Fiducial.Value.Name

/-!
# Landmarks, observations and estimates

A landmark is a marker with a known pose on the map.  A detection is one observation of a marker
by a sensor.  A reference pose says where the vehicle is thought to be; it serves only as a
check.  From a detection that passes every check comes an estimate: the pose of the vehicle on the
map together with a covariance that grows with the distance of the observation.
-/

namespace Fiducial

/-- A landmark and its pose on the map. -/
structure Landmark (α : Type) where
  id : String
  pose : Transform α
deriving Repr

structure Detection (α : Type) where
  id : String
  stamp : α
  /-- The name of the frame of the sensor. -/
  sensor : String
  /-- The pose of the landmark in the frame of the sensor. -/
  pose : Transform α
deriving Repr

structure ReferencePose (α : Type) where
  stamp : α
  /-- The pose of the vehicle on the map. -/
  pose : Transform α
deriving Repr

structure Estimate (α : Type) where
  stamp : α
  /-- The name of the frame in which the pose is given. -/
  frame : String
  id : String
  pose : Transform α
  covariance : Covariance α
  distance : α
  scale : α

def ReferencePose.position {α : Type} (r : ReferencePose α) : Vec3 α := r.pose.translation

def Estimate.position {α : Type} (e : Estimate α) : Vec3 α := e.pose.translation

def Landmark.ofValues (id pose : Value) : Except Fault (Landmark Float) := do
  let name ← id.name
  let t ← Tensor.ofValue pose
  return ⟨name, ← t.toTransform "T_map_from_landmark"⟩

def Detection.ofValues (id stamp sensor pose : Value) : Except Fault (Detection Float) := do
  let name ← id.name
  let s ← stamp.toFloat
  let t ← Tensor.ofValue pose
  return ⟨name, s, sensor.text, ← t.toTransform "T_sensor_from_landmark"⟩

def ReferencePose.ofValues (stamp pose : Value) : Except Fault (ReferencePose Float) := do
  let s ← stamp.toFloat
  let t ← Tensor.ofValue pose
  return ⟨s, ← t.toTransform "T_map_from_base"⟩

end Fiducial
