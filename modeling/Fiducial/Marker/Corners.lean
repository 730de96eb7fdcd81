import Fiducial.Camera.Basic

/-!
# Markers

A marker is a square in its own plane `z = 0` with its centre at the origin.  Its corners go around
from the upper left; y points down, as in the image.
-/

namespace Fiducial.Marker

variable {α : Type} [Scalar α]

/-- The corners of a marker with sides of this length. -/
def corners (size : α) : List (Vec3 α) :=
  let h := Scalar.ratio 1 2 * size
  [⟨-h, -h, 0⟩, ⟨h, -h, 0⟩, ⟨h, h, 0⟩, ⟨-h, h, 0⟩]

/-- The length of the sides given as data, which must be positive. -/
def sizeOf (v : Value) : Except Fault Float := do
  let s ← v.toFloat
  if !s.isFinite || s ≤ 0.0 then throw (.badMarkerSize v) else return s

/-- The four corners seen in an image, given as data. -/
def seenCorners (v : Value) : Except Fault (List (Pixel Float)) := do
  let t ← (← Tensor.ofValue v).reshape [4, 2]
  let ps := (← t.points).map fun p => (⟨p.1, p.2⟩ : Pixel Float)
  if ps.all fun p => p.u.isFinite && p.v.isFinite then return ps else throw .badCorners

end Fiducial.Marker
