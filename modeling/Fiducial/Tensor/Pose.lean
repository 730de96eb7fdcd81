import Fiducial.Tensor

/-!
# Poses given as data

Rotations, transforms and their products for arguments that are arrays of any shape.  Each argument
is read completely before the next one is looked at.
-/

namespace Fiducial.Tensor

def ofTransform (t : Transform Float) : Tensor := ⟨[4, 4], t.rows.flatten⟩

/-- The transform of a rotation matrix and a translation. -/
def rigid (rotation translation : Value) : Except Fault (Transform Float) := do
  let r ← (← ofValue rotation).toMat3
  let t ← (← ofValue translation).toVec3
  return Transform.rigid r t

def rotation (vector : Value) : Except Fault (Mat3 Float) := do
  return Rotation.ofVector (← (← ofValue vector).toVec3)

/-- The transform of a rotation vector and a translation. -/
def placement (vector translation : Value) : Except Fault (Transform Float) := do
  let r ← rotation vector
  let t ← (← ofValue translation).toVec3
  return Transform.rigid r t

def inverse (transform : Value) : Except Fault (Transform Float) := do
  return (← (← ofValue transform).toTransform "T").invert

def product (a b : Tensor) : Except Fault (Transform Float) :=
  match a.transform?, b.transform? with
  | some s, some t => .ok (s.compose t)
  | _, _ => .error (.notTransforms a.shape b.shape)

/-- The pose of the vehicle on the map. -/
def vehicleOnMap (landmark sensor observed : Value) : Except Fault (Transform Float) := do
  let s ← ofValue sensor
  let seen ← product s (← ofValue observed)
  product (← ofValue landmark) (ofTransform seen.invert)

/-- The rotation matrix of a quaternion. -/
def quaternionMatrix (quaternion : Value) : Except Fault (Mat3 Float) := do
  let q ← (← ofValue quaternion).toQuaternion
  match q.toMatrix? with
  | some m => return m
  | none => throw (.badQuaternion q.toList)

def orientation (matrix : Value) : Except Fault (Quaternion Float) := do
  Rotation.toQuaternion (← (← ofValue matrix).toMat3)

/-- The first three rows and columns of a matrix. -/
def upperLeft (t : Tensor) : Except Fault (Mat3 Float) :=
  let refused := .error (.badValue "expected a matrix of shape (3, 3)")
  match t.shape with
  | [] | [_] => .error .badIndex
  | [r, n] =>
    if r < 3 || n < 3 then refused
    else match Mat3.ofList? (((chunks n r t.data).take 3).flatMap (·.take 3)) with
      | some m => .ok m
      | none => refused
  | _ => refused

/-- The heading of a transform. -/
def heading (transform : Value) : Except Fault Float := do
  Rotation.toHeading (← (← ofValue transform).upperLeft)

end Fiducial.Tensor
