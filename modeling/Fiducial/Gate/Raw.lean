import Fiducial.Gate.Basic

/-!
# Gates on unconverted bounds

A gate may be tried with bounds and ids as they stand in data.  A bound is then read as a number
only when it is compared, and it can be shown in a rejection only if it is a number itself, so the
text of a number serves to compare but not to be shown.
-/

namespace Fiducial

/-- The answer of a frame service that found a transform, given as sixteen numbers of any shape. -/
def FrameAnswer.ofTensor (t : Tensor) : Except Fault (FrameAnswer Float) :=
  (t.entries [4, 4] Transform.ofList?).map .found

namespace Gate

/-- The bounds of the gates as data. -/
structure RawConfig where
  whitelist : List Value
  distance : Value
  time : Value
  position : Value

namespace RawConfig

/-- Only text in the list can be equal to an id, which is text. -/
def checkWhitelist (c : RawConfig) (id : Value) : Option (Rejection Float) :=
  Gate.whitelist (c.whitelist.filterMap fun
    | .str s => some s
    | _ => none) id.text

def checkRange (c : RawConfig) (distanceSq : Float) : Except Fault (Option (Rejection Float)) :=
  if !distanceSq.isFinite then .ok (some (.distanceNotFinite distanceSq))
  else do Gate.range (← c.distance.toFloat) distanceSq

/-- The number that a bound is shown as. -/
def shown (v : Value) : Except Fault Float :=
  match v with
  | .bool _ | .int _ | .float _ => v.toFloat
  | .str _ => .error (.badValue "Unknown format code 'f' for object of type 'str'")
  | v => .error (.wrongType ("unsupported format string passed to " ++ v.kindName ++ ".__format__"))

/-- Compares with a bound; what does not pass is shown with it. -/
def compare (bound : Value) (x : Float) (gate : Float → Option (Rejection Float)) :
    Except Fault (Option (Rejection Float)) := do
  if x.isFinite then
    match gate (← bound.toFloat) with
    | none => return none
    | some _ => return gate (← shown bound)
  else return gate (← shown bound)

def checkTemporal (c : RawConfig) (stamp : Value) (reference : Option (ReferencePose Float)) :
    Except Fault (Option (Rejection Float)) :=
  match reference with
  | none => .ok (some .noReference)
  | some r => do
    let t ← stamp.toFloat
    compare c.time (t - r.stamp) fun tolerance => Gate.temporal tolerance t r

/-- The fourth column of the first three rows of a matrix. -/
def lastColumn (pose : Tensor) : Except Fault (List Float) :=
  match pose.shape with
  | [r, n] =>
    match ((Tensor.chunks n r pose.data).take 3).mapM (·[3]?) with
    | some column => .ok column
    | none => .error .badIndex
  | _ => .error .badIndex

/-- The pose may have more than four rows.  A single row stands for all three coordinates when it is
compared, but it cannot be shown. -/
def checkSpatial (c : RawConfig) (pose : Tensor) (reference : ReferencePose Float) :
    Except Fault (Option (Rejection Float)) := do
  let gate := fun (p : Vec3 Float) =>
    compare c.position (p.sub reference.position).norm fun tolerance =>
      Gate.spatialAt tolerance true p reference
  let column ← lastColumn pose
  if !pose.data.all Float.isFinite then return some .poseNotFinite
  match column with
  | [x, y, z] => gate ⟨x, y, z⟩
  | [x] =>
    match ← gate ⟨x, x, x⟩ with
    | none => return none
    | some _ => throw .badIndex
  | _ => throw (.badValue "operands could not be broadcast together")

/-- The squared length of the last column of the first three rows of a matrix. -/
def distanceSqOf (pose : Tensor) : Except Fault Float := do
  match ← lastColumn pose with
  | [x, y, z] => return Vec3.normSq ⟨x, y, z⟩
  | _ => throw .badIndex

end RawConfig
end Gate
end Fiducial
