import Fiducial.Geometry.Transform
import Fiducial.Fault
import Fiducial.Numerics

/-!
# Rotations

A rotation is given as a rotation vector (axis times angle), as a quaternion that need not have unit
length, or as a matrix.  A vector shorter than the machine precision is no rotation at all, and one
whose length is not a number or not finite gives a matrix of no numbers.

Back from a matrix, the quaternion has unit length and a real part that is not negative.  A matrix
that is not orthogonal is first replaced by its polar factor, the rotation nearest to it; one whose
determinant is not positive is refused.
-/

namespace Fiducial

structure Quaternion (α : Type) where
  x : α
  y : α
  z : α
  w : α
deriving DecidableEq, Repr

namespace Rotation

variable {α : Type} [Scalar α]

/-- The distance from one to the next larger double. -/
def precision : α := Scalar.ratio 1 (Nat.pow 2 52)

/-- The rotation about the direction of `r` by the length of `r`. -/
def ofVector (r : Vec3 α) : Mat3 α :=
  let angle := r.norm
  if Scalar.lt angle precision then Mat3.identity
  else
    let c := Scalar.cos angle
    let s := Scalar.sin angle
    let k := r.scale (1 / angle)
    ((Mat3.identity.scale c).add ((Mat3.outer k k).scale (1 - c))).add ((Mat3.skew k).scale s)

end Rotation

namespace Quaternion

variable {α β : Type}

def map (f : α → β) (q : Quaternion α) : Quaternion β := ⟨f q.x, f q.y, f q.z, f q.w⟩

def toList (q : Quaternion α) : List α := [q.x, q.y, q.z, q.w]

def ofList? : List α → Option (Quaternion α)
  | [x, y, z, w] => some ⟨x, y, z, w⟩
  | _ => none

variable [Scalar α]

def norm (q : Quaternion α) : α :=
  Scalar.sqrt (q.x * q.x + q.y * q.y + q.z * q.z + q.w * q.w)

def scale (c : α) (q : Quaternion α) : Quaternion α := ⟨c * q.x, c * q.y, c * q.z, c * q.w⟩

def neg (q : Quaternion α) : Quaternion α := ⟨-q.x, -q.y, -q.z, -q.w⟩

/-- The quaternion divided by its length. -/
def normalize (q : Quaternion α) : Quaternion α :=
  let n := q.norm
  ⟨q.x / n, q.y / n, q.z / n, q.w / n⟩

/-- The rotation matrix of a quaternion of unit length. -/
def unitMatrix (q : Quaternion α) : Mat3 α :=
  let two : α := Scalar.ofNat 2
  let xx := q.x * q.x
  let yy := q.y * q.y
  let zz := q.z * q.z
  let ww := q.w * q.w
  ⟨⟨xx - yy - zz + ww, two * (q.x * q.y - q.z * q.w), two * (q.x * q.z + q.y * q.w)⟩,
    ⟨two * (q.x * q.y + q.z * q.w), -xx + yy - zz + ww, two * (q.y * q.z - q.x * q.w)⟩,
    ⟨two * (q.x * q.z - q.y * q.w), two * (q.y * q.z + q.x * q.w), -xx - yy + zz + ww⟩⟩

/-- The rotation of the unit quaternion along a quaternion; zero gives none. -/
def direction? (q : Quaternion α) : Option (Mat3 α) :=
  if Scalar.le q.norm 0 then none else some q.normalize.unitMatrix

/-- The rotation of a quaternion, which is divided by its length before its direction is taken; a
length that is not finite or below `1e-12` gives none. -/
def toMatrix? (q : Quaternion α) : Option (Mat3 α) :=
  let n := q.norm
  if !Scalar.isFinite n || Scalar.lt n (Scalar.tenth 12) then none
  else q.normalize.direction?

/-- A multiple of the quaternion of a rotation matrix, computed from the largest of the diagonal
entries and the trace. -/
def pivoted (m : Mat3 α) : Quaternion α :=
  let a := m.r0.x
  let b := m.r1.y
  let c := m.r2.z
  let trace := a + b + c
  let two : α := Scalar.ofNat 2
  if Scalar.lt a trace && Scalar.lt b trace && Scalar.lt c trace then
    ⟨m.r2.y - m.r1.z, m.r0.z - m.r2.x, m.r1.x - m.r0.y, 1 + trace⟩
  else if Scalar.le b a && Scalar.le c a then
    ⟨1 - trace + two * a, m.r1.x + m.r0.y, m.r2.x + m.r0.z, m.r2.y - m.r1.z⟩
  else if Scalar.le c b then
    ⟨m.r0.y + m.r1.x, 1 - trace + two * b, m.r2.y + m.r1.z, m.r0.z - m.r2.x⟩
  else
    ⟨m.r0.z + m.r2.x, m.r1.z + m.r2.y, 1 - trace + two * c, m.r1.x - m.r0.y⟩

/-- The unit quaternion of a rotation matrix whose real part is not negative. -/
def ofMatrix (m : Mat3 α) : Quaternion α :=
  let q := (pivoted m).normalize
  if Scalar.lt q.w 0 then q.neg else q

end Quaternion

namespace Rotation

variable {α : Type} [Scalar α]

def isSmall (a : α) : Bool := Scalar.le (Scalar.abs a) (Scalar.tenth 12)

/-- Whether the rows are orthonormal up to `1e-12`. -/
def isOrthogonal (m : Mat3 α) : Bool :=
  ((m.mul m.transpose).sub Mat3.identity).rows.all fun v =>
    isSmall v.x && isSmall v.y && isSmall v.z

/-- Halfway between a matrix and its transposed inverse, after both are brought to one size. -/
def towardPolar (m : Mat3 α) : Mat3 α :=
  let inverse := m.cofactor.scale (1 / m.det)
  let g := Scalar.sqrt (Scalar.sqrt (inverse.normSq / m.normSq))
  ((m.scale g).add (inverse.scale (1 / g))).scale (Scalar.ratio 1 2)

def iterate {β : Type} (f : β → β) : Nat → β → β
  | 0, b => b
  | n + 1, b => iterate f n (f b)

/-- The rotation nearest to a matrix of positive determinant, to the accuracy of the scalar. -/
def polarFactor (m : Mat3 α) : Mat3 α := iterate towardPolar 40 m

/-- The polar factor of a matrix all of whose entries are numbers. -/
def polarFactor? (m : Mat3 α) : Option (Mat3 α) :=
  if m.rows.all fun v => Scalar.le v.x v.x && Scalar.le v.y v.y && Scalar.le v.z v.z then
    some (polarFactor m)
  else none

/-- The angle about the vertical axis, the first of the angles about z, y and x.  When the pitch is
a right angle up to `1e-7` there is no roll, and the heading is read from the second column. -/
def heading (m : Mat3 α) : α :=
  if Scalar.le (Scalar.sqrt (m.r0.x * m.r0.x + m.r1.x * m.r1.x)) (Scalar.tenth 7) then
    Scalar.atan2 (-m.r0.y) m.r1.y
  else Scalar.atan2 m.r1.x m.r0.x

variable [Numerics α]

/-- The rotation that a matrix stands for. -/
def nearest (m : Mat3 α) : Except Fault (Mat3 α) :=
  if Scalar.le (Numerics.determinant m) 0 then .error .leftHanded
  else if isOrthogonal m then .ok m
  else match Numerics.polar? m with
    | some r => .ok r
    | none => .error .noDecomposition

/-- The quaternion of a matrix. -/
def toQuaternion (m : Mat3 α) : Except Fault (Quaternion α) :=
  (nearest m).map Quaternion.ofMatrix

def toHeading (m : Mat3 α) : Except Fault α := (nearest m).map heading

end Rotation

/-- The routines made of the operations of the scalar, with a power of their own. -/
@[reducible] def Numerics.plain {α : Type} [Scalar α] (power : α → Nat → α) : Numerics α :=
  ⟨power, Mat3.det, Rotation.polarFactor?⟩

instance : Numerics Float := .plain fun a n => Float.pow a (Float.ofNat n)

namespace Transform

variable {α : Type} [Scalar α]

/-- The transform of a rotation vector and a translation. -/
def ofVectors (rotation translation : Vec3 α) : Transform α :=
  rigid (Rotation.ofVector rotation) translation

end Transform
end Fiducial
