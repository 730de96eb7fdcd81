import Fiducial.Geometry.Vector

/-!
# Transforms of space

A transform from one coordinate frame to another is a matrix of four rows and columns, kept as the
blocks `[rotation, translation; bottom, corner]`.  Nothing forces it to be rigid: a matrix read from
data is taken as it stands.  `compose a b` is the matrix product, first `b` and then `a`.  `invert`
transposes the rotation block and resets the bottom row, which is the inverse of a rigid transform
and of no other.
-/

namespace Fiducial

structure Transform (α : Type) where
  rotation : Mat3 α
  translation : Vec3 α
  bottom : Vec3 α
  corner : α
deriving DecidableEq, Repr

namespace Transform

variable {α β : Type}

def map (f : α → β) (t : Transform α) : Transform β :=
  ⟨t.rotation.map f, t.translation.map f, t.bottom.map f, f t.corner⟩

/-- The sixteen entries, row by row. -/
def rows (t : Transform α) : List (List α) :=
  let r := t.rotation
  let p := t.translation
  [r.r0.toList ++ [p.x], r.r1.toList ++ [p.y], r.r2.toList ++ [p.z], t.bottom.toList ++ [t.corner]]

def ofList? : List α → Option (Transform α)
  | [a, b, c, x, d, e, f, y, g, h, i, z, p, q, r, s] =>
    some ⟨⟨⟨a, b, c⟩, ⟨d, e, f⟩, ⟨g, h, i⟩⟩, ⟨x, y, z⟩, ⟨p, q, r⟩, s⟩
  | _ => none

variable [Scalar α]

/-- A rotation followed by a translation. -/
def rigid (rotation : Mat3 α) (translation : Vec3 α) : Transform α :=
  ⟨rotation, translation, Vec3.zero, 1⟩

def identity : Transform α := rigid Mat3.identity Vec3.zero

def invert (t : Transform α) : Transform α :=
  let r := t.rotation.transpose
  rigid r (r.neg.apply t.translation)

/-- Row `(u, c)` of four entries times the column `(v, d)`. -/
def dot4 (u : Vec3 α) (c : α) (v : Vec3 α) (d : α) : α := u.dot v + c * d

/-- Row `(u, c)` of four entries times the first three columns of `b`. -/
def rowTimes (u : Vec3 α) (c : α) (b : Transform α) : Vec3 α :=
  let m := b.rotation.transpose
  ⟨dot4 u c m.r0 b.bottom.x, dot4 u c m.r1 b.bottom.y, dot4 u c m.r2 b.bottom.z⟩

def compose (a b : Transform α) : Transform α where
  rotation :=
    ⟨rowTimes a.rotation.r0 a.translation.x b, rowTimes a.rotation.r1 a.translation.y b,
      rowTimes a.rotation.r2 a.translation.z b⟩
  translation :=
    ⟨dot4 a.rotation.r0 a.translation.x b.translation b.corner,
      dot4 a.rotation.r1 a.translation.y b.translation b.corner,
      dot4 a.rotation.r2 a.translation.z b.translation b.corner⟩
  bottom := rowTimes a.bottom a.corner b
  corner := dot4 a.bottom a.corner b.translation b.corner

def isFinite (t : Transform α) : Bool :=
  t.rotation.isFinite && t.translation.isFinite && t.bottom.isFinite && Scalar.isFinite t.corner

/-- The pose of the vehicle on the map, from the pose of a landmark on the map, the pose of the
sensor on the vehicle and the observation of the landmark by the sensor. -/
def vehicleOnMap (landmark sensor observed : Transform α) : Transform α :=
  compose landmark (invert (compose sensor observed))

end Transform
end Fiducial
