import Fiducial.Gate.Raw
import Fiducial.PoseLog
import Fiducial.Tensor.Pose

/-!
# Records of estimates given as data

An estimate that comes from elsewhere may hold anything.  It is written like one of this library,
and what cannot be written is found in the order of the fields of the record.  Its covariance may
have any number of entries, and its position has as many coordinates as the matrix has rows, up to
three.
-/

namespace Fiducial.PoseLog

/-- An estimate as data. -/
structure Draft where
  stamp : Value
  frame : Value
  id : Value
  /-- A matrix of any shape. -/
  pose : Tensor
  covariance : Value
  distance : Value
  scale : Value

/-- The record of an estimate given as data. -/
def Draft.record [Numerics Float] (d : Draft) : Except Fault Value := do
  let stamp ← d.stamp.toFloat
  let frame ← d.frame.name
  let id ← d.id.name
  let position ← Gate.RawConfig.lastColumn d.pose
  let rotation ← d.pose.upperLeft
  let q ← Rotation.toQuaternion rotation
  let heading ← Rotation.toHeading rotation
  let covariance ← (← d.covariance.items).mapM Value.toFloat
  let distance ← d.distance.toFloat
  let scale ← d.scale.toFloat
  return recordOf (.float stamp) frame id (numbers position) (numbers q.toList)
    (.float heading) (numbers covariance) (.float distance) (.float scale)

def publishDraft [Numerics Float] (now : Float) (l : PoseLog) (d : Draft) : Except Fault PoseLog :=
  d.record.map fun r => l.append now (lineOf r)

end Fiducial.PoseLog
