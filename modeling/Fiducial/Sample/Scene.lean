import Fiducial.Landmark

/-!
# The scene of the sample recording

A vehicle drives straight along the x axis of the map at constant speed, with a camera in front that
looks forward.  There are four landmarks, one of which is not meant to be used.  In each cycle the
camera sees those landmarks that are more than half a metre in front of it.
-/

namespace Fiducial.Sample

/-- Where a landmark of the scene stands. -/
structure Place where
  id : String
  position : Vec3 Float
  /-- Its rotation vector, if it is turned. -/
  turn : Option (Vec3 Float)

def places : List Place :=
  [⟨"0", ⟨8.0, 1.0, 1.5⟩, none⟩, ⟨"1", ⟨16.0, -1.0, 1.5⟩, none⟩,
    ⟨"2", ⟨24.0, 0.5, 1.5⟩, some ⟨0.0, 0.0, 0.3⟩⟩, ⟨"99", ⟨12.0, 0.0, 1.5⟩, none⟩]

/-- The ids of the landmarks that are meant to be used. -/
def targets : List String := ["0", "1", "2"]

def cameraPosition : Vec3 Float := ⟨1.0, 0.0, 1.5⟩

/-- The rotation of the camera, whose z axis points forward and whose x axis points to the right. -/
def cameraRotation : Quaternion Float := ⟨-0.5, 0.5, -0.5, 0.5⟩

variable {α : Type} [Scalar α]

def noTurn : Vec3 Float := ⟨0.0, 0.0, 0.0⟩

/-- The landmark that stands in a place. -/
def Place.landmark (p : Place) : Landmark α :=
  ⟨p.id, Transform.ofVectors ((p.turn.getD noTurn).map Scalar.ofFloat)
    (p.position.map Scalar.ofFloat)⟩

/-- The pose of the camera on the vehicle. -/
def cameraOnVehicle : Transform α :=
  let turn : Quaternion α := cameraRotation.map Scalar.ofFloat
  Transform.rigid turn.normalize.normalize.unitMatrix (cameraPosition.map Scalar.ofFloat)

/-- What the camera sees of a landmark. -/
structure Sight (α : Type) where
  id : String
  /-- The rotation vector and the position of the landmark in the frame of the camera. -/
  rotation : Vec3 α
  position : Vec3 α

/-- One cycle of the recording. -/
structure Cycle (α : Type) where
  time : α
  vehicle : Transform α
  /-- The position of the reference pose. -/
  reference : Vec3 α
  sights : List (Sight α)

/-- How the vehicle drives. -/
structure Drive (α : Type) where
  speed : α
  /-- The time from one cycle to the next. -/
  period : α
  /-- By how much the reference pose of a cycle is off, along x and y. -/
  noise : Nat → α × α
  /-- The rotation vector of a rotation. -/
  toVector : Mat3 α → Vec3 α

namespace Drive

/-- The pose of the vehicle at a time. -/
def vehicleAt (d : Drive α) (time : α) : Transform α :=
  Transform.rigid Mat3.identity ⟨d.speed * time, 0, 0⟩

/-- The pose of a landmark in the frame of the camera. -/
def seen (vehicle : Transform α) (l : Landmark α) : Transform α :=
  ((cameraOnVehicle.invert).compose vehicle.invert).compose l.pose

/-- Whether a landmark is far enough in front of the camera. -/
def isVisible (t : Transform α) : Bool := !Scalar.le t.translation.z (Scalar.ratio 1 2)

/-- The landmarks in sight of a vehicle, in the order of the map. -/
def sights (d : Drive α) (vehicle : Transform α) : List (Sight α) :=
  (places.filter fun p => isVisible (seen vehicle (p.landmark : Landmark α))).map fun p =>
    let t := seen vehicle p.landmark
    ⟨p.id, d.toVector t.rotation, t.translation⟩

/-- The cycle with the given number. -/
def cycle (d : Drive α) (k : Nat) : Cycle α :=
  let time := Scalar.ofNat k * d.period
  let vehicle := d.vehicleAt time
  let p := vehicle.translation
  let (dx, dy) := d.noise k
  ⟨time, vehicle, ⟨p.x + dx, p.y + dy, p.z⟩, d.sights vehicle⟩

end Drive
end Fiducial.Sample
