import Fiducial.Camera.Lens
import Fiducial.Marker.Solver

/-!
# Projecting arrays of points

Points and poses may be given as arrays in several shapes.  Points of space stand in rows, in
columns or as triples; a rotation is a vector or a matrix.  Other shapes, and no points at all,
are refused.
-/

namespace Fiducial.Camera

/-- Consecutive triples. -/
def triples : List Float → List (Vec3 Float)
  | x :: y :: z :: r => ⟨x, y, z⟩ :: triples r
  | _ => []

/-- The rows of three numbers made of three long rows. -/
def columnsOf (n : Nat) (data : List Float) : List (Vec3 Float) :=
  let entry := fun i => data.getD i 0.0
  (List.range n).map fun i => ⟨entry i, entry (n + i), entry (2 * n + i)⟩

/-- The points of space in an array. -/
def pointsOf (t : Tensor) : Except Fault (List (Vec3 Float)) :=
  if t.data = [] then .error .badImageData
  else match t.shape with
    | [3] | [_, 3] | [_, 3, 1] | [_, 1, 3] | [1, _, 3] => .ok (triples t.data)
    | [3, n] | [3, n, 1] => .ok (columnsOf n t.data)
    | _ => .error .badImageData

def vectorOf (t : Tensor) : Except Fault (Vec3 Float) :=
  match Vec3.ofList? t.data with
  | some v => .ok v
  | none => .error .badImageData

/-- A rotation vector, or the one of a rotation matrix. -/
def rotationOf (t : Tensor) : Except Fault (Vec3 Float) :=
  if t.shape = [3, 3] then
    match Mat3.ofList? t.data with
    | some m => .ok (Rotation.toVector m)
    | none => .error .badImageData
  else vectorOf t

/-- The error of an image against the projection of points, all given as data. -/
def reprojectionError (c : Camera) (object image rotation translation : Value) :
    Except Fault Float := do
  let r ← Tensor.ofValue rotation
  let t ← Tensor.ofValue translation
  let calibration ← c.calibration
  let seen := (← (← Tensor.ofValue image).points).map fun p => (⟨p.1, p.2⟩ : Pixel Float)
  let points ← pointsOf (← Tensor.ofValue object)
  Marker.solver.reprojectionError calibration (← rotationOf r) (← vectorOf t) points seen

end Fiducial.Camera
