import Fiducial.Marker.Corners
import Fiducial.Geometry.Rotation

/-!
# The pose of a marker

The corners of a marker in an image give its pose in the frame of the camera.  Finding that pose,
and projecting points with it, are services: what they return is checked here.  A pose is used
only if it is finite and in front of the camera, and it comes with the error by which its corners
miss those seen.
-/

namespace Fiducial

/-- Services that find poses and project points. -/
structure PoseSolver (α : Type) where
  /-- A rotation vector and a translation that take the points to their pixels, if any are found. -/
  solve : Calibration α → List (Vec3 α) → List (Pixel α) → Except Fault (Option (Vec3 α × Vec3 α))
  project : Calibration α → Vec3 α → Vec3 α → List (Vec3 α) → Except Fault (List (Pixel α))

/-- The error by which points, once placed and projected, miss those of an image. -/
def PoseSolver.reprojectionError {α : Type} [Scalar α] (solver : PoseSolver α) (c : Calibration α)
    (r t : Vec3 α) (object : List (Vec3 α)) (image : List (Pixel α)) : Except Fault α := do
  Reprojection.error (← solver.project c r t object) image

structure MarkerPose (α : Type) where
  /-- The pose of the marker in the frame of the camera. -/
  pose : Transform α
  /-- The root mean square error of projection in pixels. -/
  error : α

namespace MarkerPose

variable {α : Type} [Scalar α]

def distance (m : MarkerPose α) : α := m.pose.translation.norm

/-- Whether the error is above a bound, or is not a number. -/
def exceeds (m : MarkerPose α) (bound : α) : Bool := !Scalar.le m.error bound

def isPlausible (t : Transform α) : Bool := t.isFinite && Scalar.lt 0 t.translation.z

/-- The pose of a marker of the given size from its corners in the image. -/
def locate (solver : PoseSolver α) (camera : Camera) (size seen : Value) :
    Except Fault (MarkerPose α) := do
  let seen := (← Marker.seenCorners seen).map fun p => (p.map Scalar.ofFloat : Pixel α)
  let object := Marker.corners (Scalar.ofFloat (← Marker.sizeOf size) : α)
  let c := (← camera.calibration).map (Scalar.ofFloat : Float → α)
  match ← solver.solve c object seen with
  | none => throw .unsolved
  | some (r, t) =>
    let pose := Transform.ofVectors r t
    if !isPlausible pose then throw (.implausiblePose (t.toList.map Scalar.toFloat))
    return ⟨pose, ← solver.reprojectionError c r t object seen⟩

end MarkerPose
end Fiducial
