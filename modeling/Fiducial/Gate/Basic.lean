import Fiducial.Gate.Rejection

/-!
# Gates

Each gate looks at one thing about a detection and either lets it pass or gives a rejection.  Bounds
belong to what passes.  A number that is not finite never passes.  The square of the distance bound
can be too large for a double; that is a fault and not a rejection.
-/

namespace Fiducial

/-- What the gates compare with. -/
structure GateConfig (α : Type) where
  whitelist : List String
  /-- The largest distance between sensor and landmark. -/
  distance : α
  /-- By how much a detection may be newer than the reference pose. -/
  time : α
  /-- The largest distance between the pose found and the reference pose. -/
  position : α
deriving Repr

/-- What a frame service answers when it is asked for a transform. -/
inductive FrameAnswer (α : Type) where
  | found (t : Transform α)
  | missing (why : String)
  | failed (cause : Fault)

/-- What comes from a frame service: an answer, or a matrix without the shape of a transform. -/
inductive FrameReply (α : Type) where
  | answer (a : FrameAnswer α)
  | misshapen (shape : List Nat) (shape_ne : shape ≠ [4, 4])

instance {α : Type} : Coe (FrameAnswer α) (FrameReply α) := ⟨.answer⟩

instance {α : Type} :
    Coe (String → String → FrameAnswer α) (String → String → FrameReply α) :=
  ⟨fun answer target source => .answer (answer target source)⟩

namespace Gate

variable {α : Type}

def whitelist (ids : List String) (id : String) : Option (Rejection α) :=
  if ids.contains id then none else some (.notWhitelisted id)

/-- The pose of the sensor on the vehicle, or why there is none. -/
def transform (answer : FrameAnswer α) (base sensor : String) :
    Except (Rejection α) (Transform α) :=
  match answer with
  | .found t => .ok t
  | .missing why => .error (.noTransform base sensor why)
  | .failed cause => .error (.noTransform base sensor cause.phrase)

variable [Scalar α]

/-- The squared distance of a landmark from the sensor. -/
def distanceSq (observed : Transform α) : α := observed.translation.normSq

/-- The square of the distance bound. -/
def limitSq [Numerics α] (distance : α) : Except Fault α :=
  match Scalar.power? distance 2 with
  | some s => .ok s
  | none => .error .overflow

def range [Numerics α] (distance distanceSq : α) : Except Fault (Option (Rejection α)) :=
  if !Scalar.isFinite distanceSq then .ok (some (.distanceNotFinite distanceSq))
  else match limitSq distance with
    | .error f => .error f
    | .ok limit =>
      if Scalar.lt limit distanceSq then .ok (some (.tooFar distanceSq limit)) else .ok none

/-- A reference pose may be newer than the detection by any amount. -/
def temporal (tolerance stamp : α) (reference : ReferencePose α) : Option (Rejection α) :=
  let age := stamp - reference.stamp
  if !Scalar.isFinite age || Scalar.lt tolerance age then
    some (.stale tolerance reference.stamp stamp)
  else none

/-- The distance of a position from the reference pose, provided everything about it is finite. -/
def spatialAt (tolerance : α) (finite : Bool) (position : Vec3 α) (reference : ReferencePose α) :
    Option (Rejection α) :=
  let apart := (position.sub reference.position).norm
  if !finite then some .poseNotFinite
  else if !Scalar.isFinite apart || Scalar.lt tolerance apart then
    some (.apart tolerance position reference.position)
  else none

def spatial (tolerance : α) (pose : Transform α) (reference : ReferencePose α) :
    Option (Rejection α) :=
  spatialAt tolerance pose.isFinite pose.translation reference

end Gate
end Fiducial
