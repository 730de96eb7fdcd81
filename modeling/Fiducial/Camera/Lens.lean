import Fiducial.Camera.Basic
import Fiducial.Geometry.Rotation

/-!
# Lenses

The projection of a lens with distortion.  A point in front of the camera is divided by its depth,
moved by a radial factor, a tangential and a thin-prism term, and then by the tilt of the sensor.
The number of coefficients says which of these there are: 0, 4, 5, 8, 12 or 14.
-/

namespace Fiducial

structure Lens where
  fx : Float
  fy : Float
  cx : Float
  cy : Float
  /-- Radial coefficients, three above and three below the line. -/
  k : Fin 6 → Float
  /-- Tangential coefficients. -/
  p : Fin 2 → Float
  /-- Thin-prism coefficients. -/
  s : Fin 4 → Float
  tilt : Mat3 Float

namespace Lens

def lengths : List Nat := [0, 4, 5, 8, 12, 14]

/-- The projective map of a sensor that is tilted about its two axes. -/
def tiltOf (tx ty : Float) : Mat3 Float :=
  let cx := Float.cos tx
  let sx := Float.sin tx
  let cy := Float.cos ty
  let sy := Float.sin ty
  let rx : Mat3 Float := ⟨⟨1, 0, 0⟩, ⟨0, cx, sx⟩, ⟨0, -sx, cx⟩⟩
  let ry : Mat3 Float := ⟨⟨cy, 0, -sy⟩, ⟨0, 1, 0⟩, ⟨sy, 0, cy⟩⟩
  let r := ry.mul rx
  let onto : Mat3 Float := ⟨⟨r.r2.z, 0, -r.r0.z⟩, ⟨0, r.r2.z, -r.r1.z⟩, ⟨0, 0, 1⟩⟩
  onto.mul r

/-- The lens of a calibration, which must have one of the known numbers of coefficients. -/
def ofCalibration (c : Calibration Float) : Except Fault Lens :=
  if !lengths.contains c.distortion.length then .error .badImageData
  else
    let d := fun i => c.distortion.getD i 0.0
    .ok {
      fx := c.matrix.r0.x, fy := c.matrix.r1.y, cx := c.matrix.r0.z, cy := c.matrix.r1.z,
      k := fun i => d ([0, 1, 4, 5, 6, 7].getD i.val 0), p := fun i => d (2 + i.val),
      s := fun i => d (8 + i.val),
      tilt := if c.distortion.length = 14 then tiltOf (d 12) (d 13) else Mat3.identity }

/-- The place on the sensor of a direction with depth one. -/
def distort (l : Lens) (p : Pixel Float) : Pixel Float :=
  let x := p.u
  let y := p.v
  let r2 := x * x + y * y
  let r4 := r2 * r2
  let r6 := r4 * r2
  let xy := 2.0 * x * y
  let radial := (1.0 + l.k 0 * r2 + l.k 1 * r4 + l.k 2 * r6) *
    (1.0 / (1.0 + l.k 3 * r2 + l.k 4 * r4 + l.k 5 * r6))
  let xd := x * radial + l.p 0 * xy + l.p 1 * (r2 + 2.0 * x * x) + l.s 0 * r2 + l.s 1 * r4
  let yd := y * radial + l.p 0 * (r2 + 2.0 * y * y) + l.p 1 * xy + l.s 2 * r2 + l.s 3 * r4
  let q := l.tilt.apply ⟨xd, yd, 1.0⟩
  let w := if q.z == 0.0 then 1.0 else 1.0 / q.z
  ⟨w * q.x, w * q.y⟩

/-- The pixel of a point in the frame of the camera; a point without depth is not divided. -/
def project (l : Lens) (p : Vec3 Float) : Pixel Float :=
  let w := if p.z == 0.0 then 1.0 else 1.0 / p.z
  let d := l.distort ⟨p.x * w, p.y * w⟩
  ⟨d.u * l.fx + l.cx, d.v * l.fy + l.cy⟩

/-- One step toward the direction whose distorted place is `goal`. -/
def correct (l : Lens) (goal p : Pixel Float) : Pixel Float :=
  let d := l.distort p
  ⟨p.u + (goal.u - d.u), p.v + (goal.v - d.v)⟩

/-- The direction with depth one that is seen at a pixel. -/
def direction (l : Lens) (p : Pixel Float) : Pixel Float :=
  let goal : Pixel Float := ⟨(p.u - l.cx) / l.fx, (p.v - l.cy) / l.fy⟩
  Rotation.iterate (l.correct goal) 40 goal

end Lens

namespace Rotation

variable {α : Type} [Scalar α]

/-- The root of a number that may be slightly negative by rounding. -/
def rootOf (a : α) : α := Scalar.sqrt (Scalar.max a 0)

/-- The axis of half a turn, up to its length. -/
def halfTurnAxis (m : Mat3 α) : Vec3 α :=
  let half : α := Scalar.ratio 1 2
  let x := rootOf ((m.r0.x + 1) * half)
  let y := rootOf ((m.r1.y + 1) * half)
  let z := rootOf ((m.r2.z + 1) * half)
  let y := if Scalar.lt m.r0.y 0 then -y else y
  let z := if Scalar.lt m.r0.z 0 then -z else z
  if Scalar.lt (Scalar.abs x) (Scalar.abs y) && Scalar.lt (Scalar.abs x) (Scalar.abs z) &&
      Scalar.lt 0 m.r1.z != Scalar.lt 0 (y * z) then ⟨x, y, -z⟩ else ⟨x, y, z⟩

/-- The rotation vector of a rotation matrix. -/
def toVector (m : Mat3 α) : Vec3 α :=
  let half : α := Scalar.ratio 1 2
  let axis : Vec3 α := ⟨m.r2.y - m.r1.z, m.r0.z - m.r2.x, m.r1.x - m.r0.y⟩
  let s := axis.norm * half
  let c := (m.r0.x + m.r1.y + m.r2.z - 1) * half
  let angle := Scalar.atan2 s c
  if Scalar.lt s (Scalar.tenth 5) then
    if Scalar.lt 0 c then Vec3.zero
    else
      let a := halfTurnAxis m
      a.scale (angle / a.norm)
  else axis.scale (half * (angle / s))

end Rotation
end Fiducial
