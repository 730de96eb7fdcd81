import Fiducial.LandmarkMap.Entry

/-!
# Events

A recording is a list of events.  Each is a mapping with a type: a reference pose, the detections of
one cycle, or the landmarks of a new map.  Events come from other programs, so their fields may be
missing or of any kind; what an event of a known type holds is read only when it is replayed.
-/

namespace Fiducial.Event

/-- Three or four numbers, in any nesting; they need not be finite. -/
def numbers (field : String) (n : Nat) (es : List (Value × Value)) : Except Fault (List Float) :=
  match Value.lookup field es with
  | none => .error (.missingField field)
  | some v => do
    let t ← Tensor.ofValue v
    if t.size ≠ n then throw (.wrongLength field n t.size) else return t.data

def vector (field : String) (es : List (Value × Value)) : Except Fault (Vec3 Float) := do
  match Vec3.ofList? (← numbers field 3 es) with
  | some v => return v
  | none => throw (.wrongLength field 3 0)

def quaternion (field : String) (es : List (Value × Value)) : Except Fault (Quaternion Float) := do
  match Quaternion.ofList? (← numbers field 4 es) with
  | some q => return q
  | none => throw (.wrongLength field 4 0)

/-- A field that must be there. -/
def required (field : String) (es : List (Value × Value)) : Except Fault Value :=
  match Value.lookup field es with
  | some v => .ok v
  | none => .error (.missingKey (.str field))

/-- The time of an event. -/
def stamp (es : List (Value × Value)) : Except Fault Float := do
  (← required "t" es).toFloat

variable {α : Type} [Scalar α]

def rotation (es : List (Value × Value)) : Except Fault (Mat3 α) :=
  match Value.lookup "orientation_xyzw" es with
  | none => .ok Mat3.identity
  | some _ => do
    let q ← quaternion "orientation_xyzw" es
    match (q.map Scalar.ofFloat : Quaternion α).toMatrix? with
    | some m => return m
    | none => throw (.badQuaternion q.toList)

/-- The pose of a reference event. -/
def reference (es : List (Value × Value)) : Except Fault (ReferencePose α) := do
  let r ← rotation es
  let t ← stamp es
  let p ← vector "position" es
  return ⟨Scalar.ofFloat t, Transform.rigid r (p.map Scalar.ofFloat)⟩

/-- A field of one detection, which may be anything. -/
def member (field : String) (v : Value) : Except Fault Value :=
  match v with
  | .map es => required field es
  | v => .error (.wrongType (v.kindName ++ " indices must be integers or slices, not str"))

/-- A vector of one detection. -/
def memberVector (field : String) (v : Value) : Except Fault (Vec3 Float) :=
  match v with
  | .map es => vector field es
  | _ => .error (.missingField field)

def detection (stamp : α) (sensor : String) (v : Value) : Except Fault (Detection α) := do
  let id ← (← member "id" v).name
  let r ← memberVector "rvec" v
  let t ← memberVector "tvec" v
  return ⟨id, stamp, sensor,
    Transform.ofVectors (r.map Scalar.ofFloat) (t.map Scalar.ofFloat)⟩

/-- The observations of a detections event; no list of them is an empty one. -/
def detections (es : List (Value × Value)) : Except Fault (List (Detection α)) := do
  let t ← stamp es
  let sensor ← (← required "sensor_frame" es).name
  let vs ← ((Value.lookup "detections" es).getD .null).itemsOrNone
  vs.mapM (detection (Scalar.ofFloat t) sensor)

/-- The landmarks of a new map, each or what is wrong with it. -/
def landmarks (es : List (Value × Value)) : Except Fault (List (Except Fault (Landmark α))) := do
  return LandmarkMap.entries (← ((Value.lookup "landmarks" es).getD .null).itemsOrNone)

end Fiducial.Event
