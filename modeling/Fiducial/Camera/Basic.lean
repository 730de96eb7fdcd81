import Fiducial.Tensor

/-!
# Cameras

A camera is known by its matrix and its distortion.  Both are taken as data, because a calibration
is accepted as it comes and looked at only when a marker is located.
-/

namespace Fiducial

/-- A calibration as it was given. -/
structure Camera where
  matrix : Value
  distortion : Value

/-- A point of the image. -/
structure Pixel (α : Type) where
  u : α
  v : α
deriving DecidableEq, Repr

/-- A calibration in numbers. -/
structure Calibration (α : Type) where
  matrix : Mat3 α
  distortion : List α

namespace Pixel

variable {α β : Type}

def map (f : α → β) (p : Pixel α) : Pixel β := ⟨f p.u, f p.v⟩

variable [Scalar α]

def distanceSq (p q : Pixel α) : α := (p.u - q.u) * (p.u - q.u) + (p.v - q.v) * (p.v - q.v)

end Pixel

namespace Camera

/-- The numbers of a calibration; the distortion may have any shape. -/
def calibration (c : Camera) : Except Fault (Calibration Float) := do
  let t ← Tensor.ofValue c.matrix
  let m ← t.toMat3
  let d ← Tensor.ofValue c.distortion
  return ⟨m, d.data⟩

end Camera

def Calibration.map {α β : Type} (f : α → β) (c : Calibration α) : Calibration β :=
  ⟨c.matrix.map f, c.distortion.map f⟩

namespace Reprojection

variable {α : Type} [Scalar α]

def total (xs : List α) : α := xs.foldl (· + ·) 0

/-- The root of the mean squared distance between points. -/
def rootMeanSquare (squares : List α) : α :=
  Scalar.sqrt (total squares / Scalar.ofNat squares.length)

/-- A single point stands for as many as there are on the other side. -/
def pairUp (ps qs : List (Pixel α)) : Except Fault (List (Pixel α × Pixel α)) :=
  if ps.length = qs.length then .ok (ps.zip qs)
  else match ps, qs with
    | [p], qs => .ok (qs.map (p, ·))
    | ps, [q] => .ok (ps.map (·, q))
    | _, _ => .error (.badValue "operands could not be broadcast together")

/-- The error of projected points against the points of an image. -/
def error (projected image : List (Pixel α)) : Except Fault α := do
  return rootMeanSquare ((← pairUp projected image).map fun p => p.1.distanceSq p.2)

end Reprojection
end Fiducial
