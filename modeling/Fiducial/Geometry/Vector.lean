import Fiducial.Scalar

/-!
# Vectors and matrices of three dimensions

Sums run from left to right, so the same expression gives the same double everywhere.
-/

namespace Fiducial

structure Vec3 (α : Type) where
  x : α
  y : α
  z : α
deriving DecidableEq, Repr

/-- A matrix by its rows. -/
structure Mat3 (α : Type) where
  r0 : Vec3 α
  r1 : Vec3 α
  r2 : Vec3 α
deriving DecidableEq, Repr

namespace Vec3

variable {α β : Type}

def map (f : α → β) (v : Vec3 α) : Vec3 β := ⟨f v.x, f v.y, f v.z⟩

def toList (v : Vec3 α) : List α := [v.x, v.y, v.z]

def ofList? : List α → Option (Vec3 α)
  | [x, y, z] => some ⟨x, y, z⟩
  | _ => none

variable [Scalar α]

def zero : Vec3 α := ⟨0, 0, 0⟩

def add (u v : Vec3 α) : Vec3 α := ⟨u.x + v.x, u.y + v.y, u.z + v.z⟩

def sub (u v : Vec3 α) : Vec3 α := ⟨u.x - v.x, u.y - v.y, u.z - v.z⟩

def neg (v : Vec3 α) : Vec3 α := ⟨-v.x, -v.y, -v.z⟩

def scale (c : α) (v : Vec3 α) : Vec3 α := ⟨c * v.x, c * v.y, c * v.z⟩

def dot (u v : Vec3 α) : α := u.x * v.x + u.y * v.y + u.z * v.z

def cross (u v : Vec3 α) : Vec3 α :=
  ⟨u.y * v.z - u.z * v.y, u.z * v.x - u.x * v.z, u.x * v.y - u.y * v.x⟩

def normSq (v : Vec3 α) : α := dot v v

def norm (v : Vec3 α) : α := Scalar.sqrt (normSq v)

def isFinite (v : Vec3 α) : Bool :=
  Scalar.isFinite v.x && Scalar.isFinite v.y && Scalar.isFinite v.z

end Vec3

namespace Mat3

variable {α β : Type}

def map (f : α → β) (m : Mat3 α) : Mat3 β := ⟨m.r0.map f, m.r1.map f, m.r2.map f⟩

def rows (m : Mat3 α) : List (Vec3 α) := [m.r0, m.r1, m.r2]

/-- The matrix of nine entries in row-major order. -/
def ofList? : List α → Option (Mat3 α)
  | [a, b, c, d, e, f, g, h, i] => some ⟨⟨a, b, c⟩, ⟨d, e, f⟩, ⟨g, h, i⟩⟩
  | _ => none

def transpose (m : Mat3 α) : Mat3 α :=
  ⟨⟨m.r0.x, m.r1.x, m.r2.x⟩, ⟨m.r0.y, m.r1.y, m.r2.y⟩, ⟨m.r0.z, m.r1.z, m.r2.z⟩⟩

variable [Scalar α]

def identity : Mat3 α := ⟨⟨1, 0, 0⟩, ⟨0, 1, 0⟩, ⟨0, 0, 1⟩⟩

def add (a b : Mat3 α) : Mat3 α := ⟨a.r0.add b.r0, a.r1.add b.r1, a.r2.add b.r2⟩

def sub (a b : Mat3 α) : Mat3 α := ⟨a.r0.sub b.r0, a.r1.sub b.r1, a.r2.sub b.r2⟩

def neg (a : Mat3 α) : Mat3 α := ⟨a.r0.neg, a.r1.neg, a.r2.neg⟩

def scale (c : α) (a : Mat3 α) : Mat3 α := ⟨a.r0.scale c, a.r1.scale c, a.r2.scale c⟩

def apply (m : Mat3 α) (v : Vec3 α) : Vec3 α := ⟨m.r0.dot v, m.r1.dot v, m.r2.dot v⟩

def mul (a b : Mat3 α) : Mat3 α :=
  let c := b.transpose
  ⟨c.apply a.r0, c.apply a.r1, c.apply a.r2⟩

/-- The column `u` times the row `v`. -/
def outer (u v : Vec3 α) : Mat3 α := ⟨v.scale u.x, v.scale u.y, v.scale u.z⟩

/-- The matrix of the product with `v` on the left. -/
def skew (v : Vec3 α) : Mat3 α := ⟨⟨0, -v.z, v.y⟩, ⟨v.z, 0, -v.x⟩, ⟨-v.y, v.x, 0⟩⟩

def det (m : Mat3 α) : α := m.r0.dot (m.r1.cross m.r2)

/-- The matrix of cofactors: the transposed inverse times the determinant. -/
def cofactor (m : Mat3 α) : Mat3 α := ⟨m.r1.cross m.r2, m.r2.cross m.r0, m.r0.cross m.r1⟩

def normSq (m : Mat3 α) : α := m.r0.normSq + m.r1.normSq + m.r2.normSq

def isFinite (m : Mat3 α) : Bool := m.r0.isFinite && m.r1.isFinite && m.r2.isFinite

end Mat3
end Fiducial
