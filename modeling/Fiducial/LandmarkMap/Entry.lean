import Fiducial.Registry

/-!
# Entries of a landmark map

An entry gives the id of a landmark, its position and its orientation, as a quaternion or as a
rotation vector and by default as no rotation at all.  Its numbers must be finite.
-/

namespace Fiducial.LandmarkMap

/-- The fault of a field that is no array of numbers, which shows its value. -/
def notNumeric (field : String) (v : Value) : Fault :=
  if v.isWritable then .notNumeric field v else Value.tooLong

/-- Exactly `n` finite numbers, in any nesting. -/
def numbers (field : String) (n : Nat) (v : Value) : Except Fault (List Float) :=
  match Tensor.ofValue v with
  | .error f => .error (if f.kind.isValue || f.kind = .type then notNumeric field v else f)
  | .ok t =>
    if t.size ≠ n then .error (.wrongLength field n t.size)
    else if !t.data.all Float.isFinite then .error (.notFinite field)
    else .ok t.data

def vector (field : String) (v : Value) : Except Fault (Vec3 Float) := do
  match Vec3.ofList? (← numbers field 3 v) with
  | some p => return p
  | none => throw (.wrongLength field 3 0)

def quaternion (field : String) (v : Value) : Except Fault (Quaternion Float) := do
  match Quaternion.ofList? (← numbers field 4 v) with
  | some q => return q
  | none => throw (.wrongLength field 4 0)

/-- The id of an entry without the blanks around it. -/
def idOf (index : Int) (es : List (Value × Value)) : Except Fault String :=
  match (Value.lookup "id" es).getD .null with
  | .null => .error (.landmarkWithoutId index)
  | v => do
    let name ← v.name
    if Text.isBlank name then throw (.landmarkWithoutId index) else return Text.trim name

def noRotation : Value := .list [.float 0.0, .float 0.0, .float 0.0, .float 1.0]

variable {α : Type} [Scalar α]

/-- The rotation that a field gives as a quaternion. -/
def orientationOf (field : String) (v : Value) : Except Fault (Mat3 α) := do
  let q ← quaternion field v
  match (q.map Scalar.ofFloat : Quaternion α).toMatrix? with
  | some m => return m
  | none => throw (.badQuaternion q.toList)

/-- The fault of an entry whose orientation cannot be read: a bad value is one of the entry. -/
def orientationFault (f : Fault) : Fault :=
  if f.kind.isValue then .badOrientation f.message else f

/-- The rotation of the entry with this id. -/
def rotationOf (id : String) (es : List (Value × Value)) : Except Fault (Mat3 α) :=
  let field := fun name => "landmarks[" ++ id ++ "]." ++ name
  match Value.lookup "rvec" es, Value.lookup "orientation_xyzw" es with
  | some _, some _ => .error (.twoOrientations id)
  | some r, none => do return Rotation.ofVector ((← vector (field "rvec") r).map Scalar.ofFloat)
  | none, q =>
    (orientationOf (field "orientation_xyzw") (q.getD noRotation)).mapError orientationFault

/-- The landmark of the entry in the given place. -/
def entryOf (index : Int) (v : Value) : Except Fault (Landmark α) :=
  match v with
  | .map es => do
    let id ← idOf index es
    let position ← vector ("landmarks[" ++ id ++ "].position")
      ((Value.lookup "position" es).getD .null)
    let rotation ← rotationOf id es
    return ⟨id, Transform.rigid rotation (position.map Scalar.ofFloat)⟩
  | _ => .error (.landmarkNotMapping index)

/-- The landmark of each entry, or what is wrong with it. -/
def entries (vs : List Value) : List (Except Fault (Landmark α)) :=
  vs.mapIdx fun i v => entryOf i v

/-- The landmarks of entries, all of which must be right. -/
def landmarksOf (vs : List Value) : Except Fault (List (Landmark α)) := (entries vs).mapM id

end Fiducial.LandmarkMap
