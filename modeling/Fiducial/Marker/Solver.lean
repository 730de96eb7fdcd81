import Fiducial.Camera.Lens
import Fiducial.Marker.Pose

/-!
# Finding the pose of a square

The pose of a square is first read off the projective map that takes its corners to the directions
in which they are seen, and then improved by least squares on the pixels.  Each step solves the
normal equations with a damping that shrinks after a step that helped and grows after one that did
not.
-/

namespace Fiducial.Marker

/-- A rotation and a translation. -/
structure Placement where
  rotation : Mat3 Float
  translation : Vec3 Float

namespace Placement

def apply (p : Placement) (x : Vec3 Float) : Vec3 Float := (p.rotation.apply x).add p.translation

/-- A placement moved by a small rotation vector and a translation, given as six numbers. -/
def moved (p : Placement) (d : List Float) : Placement :=
  let a := fun i => d.getD i 0.0
  ⟨(Rotation.ofVector ⟨a 0, a 1, a 2⟩).mul p.rotation,
    p.translation.add ⟨a 3, a 4, a 5⟩⟩

end Placement

/-- The placement of a square whose corners are seen in four directions; there is none when the
corners do not span a plane figure. -/
def fromDirections (size : Float) (ds : List (Pixel Float)) : Option Placement :=
  match ds with
  | [a, b, c, d] =>
    let x1 := b.u - c.u
    let x2 := d.u - c.u
    let sx := a.u - b.u + c.u - d.u
    let y1 := b.v - c.v
    let y2 := d.v - c.v
    let sy := a.v - b.v + c.v - d.v
    let det := x1 * y2 - x2 * y1
    if det == 0.0 then none
    else
      let g := (sx * y2 - x2 * sy) / det
      let h := (x1 * sy - sx * y1) / det
      let first : Vec3 Float := ⟨b.u - a.u + g * b.u, b.v - a.v + g * b.v, g⟩
      let second : Vec3 Float := ⟨d.u - a.u + h * d.u, d.v - a.v + h * d.v, h⟩
      let centre := ((first.add second).scale 0.5).add ⟨a.u, a.v, 1.0⟩
      let n := size * centre.z
      let first := first.scale (1.0 / n)
      let second := second.scale (1.0 / n)
      let n1 := first.norm
      let n2 := second.norm
      let e1 := first.scale (1.0 / n1)
      let e2 := second.scale (1.0 / n2)
      let columns : Mat3 Float := ⟨e1, e2, e1.cross e2⟩
      some ⟨Rotation.polarFactor columns.transpose,
        centre.scale (2.0 / ((n1 + n2) * centre.z))⟩
  | _ => none

/-! ## Least squares -/

/-- The numbers by which projected points miss the points seen. -/
def residuals (l : Lens) (object : List (Vec3 Float)) (seen : List (Pixel Float)) (p : Placement) :
    List Float :=
  (object.zip seen).flatMap fun (x, s) =>
    let q := l.project (p.apply x)
    [q.u - s.u, q.v - s.v]

def dot (xs ys : List Float) : Float := (xs.zip ys).foldl (fun s p => s + p.1 * p.2) 0.0

/-- Half the width of the differences that stand for derivatives. -/
def stepWidth : Float := 1e-6

/-- The list with `x` in one place and zero elsewhere. -/
def unit (n i : Nat) (x : Float) : List Float := (List.replicate n 0.0).set i x

/-- The columns of the derivative of the residuals. -/
def derivative (f : Placement → List Float) (p : Placement) : List (List Float) :=
  (List.range 6).map fun i =>
    let ahead := f (p.moved (unit 6 i stepWidth))
    let behind := f (p.moved (unit 6 i (-stepWidth)))
    (ahead.zip behind).map fun (a, b) => (a - b) / (2.0 * stepWidth)

/-- Subtracts the multiple of a row that clears its first entry. -/
def clear (pivot row : List Float) : List Float :=
  match pivot, row with
  | p :: ps, r :: rs => (ps.zip rs).map fun (a, b) => b - a * (r / p)
  | _, _ => row.tail

/-- The solution of linear equations, each a row with its right side last, by elimination; the
system must be definite.  `n` is the number of unknowns. -/
def solveRows : Nat → List (List Float) → List Float
  | 0, _ => []
  | _ + 1, [] => []
  | n + 1, pivot :: rows =>
    let rest := solveRows n (rows.map (clear pivot))
    let known := dot pivot.tail.dropLast rest
    (((pivot.getLastD 0.0) - known) / (pivot.headD 1.0)) :: rest

structure Search where
  place : Placement
  errors : List Float
  damping : Float

/-- The sum of squared errors, in pixels, below which a placement needs no improvement. -/
def negligible : Float := 1e-18

/-- One damped step; a step that does not help only raises the damping. -/
def advance (f : Placement → List Float) (s : Search) : Search :=
  let columns := derivative f s.place
  let indexed := columns.zip (List.range 6)
  let rows := indexed.map fun (c, i) =>
    let row := columns.map (dot c)
    (row.set i (row.getD i 0.0 * (1.0 + s.damping))) ++ [-(dot c s.errors)]
  let place := s.place.moved (solveRows 6 rows)
  let errors := f place
  if dot errors errors ≤ dot s.errors s.errors then ⟨place, errors, s.damping * 0.1⟩
  else { s with damping := s.damping * 10.0 }

def improve (f : Placement → List Float) (s : Search) : Search :=
  if dot s.errors s.errors ≤ negligible then s else advance f s

/-- How many steps are tried. -/
def rounds : Nat := 60

def isKnown (p : Pixel Float) : Bool := p.u.isFinite && p.v.isFinite

def unknown : Vec3 Float := ⟨Binary.nan, Binary.nan, Binary.nan⟩

/-- The pose of a square of four corners in the image.  A calibration that gives no directions
gives a pose of no numbers, and corners that do not span a figure are refused. -/
def solve (c : Calibration Float) (object : List (Vec3 Float)) (seen : List (Pixel Float)) :
    Except Fault (Option (Vec3 Float × Vec3 Float)) := do
  let l ← Lens.ofCalibration c
  let size := match object with
    | a :: b :: _ => b.x - a.x
    | _ => 0.0
  let ds := seen.map l.direction
  if !ds.all isKnown then return some (unknown, unknown)
  match fromDirections size ds with
  | none => throw .badImageData
  | some p =>
    let f := residuals l object seen
    let best := Rotation.iterate (improve f) rounds ⟨p, f p, 1e-3⟩
    return some (Rotation.toVector best.place.rotation, best.place.translation)

/-- Projects points after a rotation and a translation. -/
def project (c : Calibration Float) (r t : Vec3 Float) (points : List (Vec3 Float)) :
    Except Fault (List (Pixel Float)) := do
  let l ← Lens.ofCalibration c
  let p : Placement := ⟨Rotation.ofVector r, t⟩
  return points.map fun x => l.project (p.apply x)

def solver : PoseSolver Float := ⟨solve, project⟩

end Fiducial.Marker
