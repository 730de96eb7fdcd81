import Fiducial.Tensor
import Fiducial.Value.Items

/-!
# Covariance

The uncertainty of a pose is a matrix of six rows and columns, for x, y, z, roll, pitch and yaw,
kept row by row.  The base covariance holds up to a distance of five metres; beyond that it is
multiplied by the third power of the distance over five metres, because an error of angle moves a
far pose further.  It never shrinks.
-/

namespace Fiducial

structure Covariance (α : Type) where
  entries : List α
  length_eq : entries.length = 36

namespace Covariance

variable {α : Type}

def ofList (xs : List α) : Except Fault (Covariance α) :=
  if h : xs.length = 36 then .ok ⟨xs, h⟩ else .error (.covarianceSize xs.length)

def map {β : Type} (f : α → β) (c : Covariance α) : Covariance β :=
  ⟨c.entries.map f, by simp [c.length_eq]⟩

def rows (c : Covariance α) : List (List α) := Tensor.chunks 6 6 c.entries

variable [Scalar α]

/-- The distance up to which the base covariance holds. -/
def referenceDistance : α := Scalar.ofNat 5

/-- Why an observation at some distance has no covariance. -/
inductive Trouble where
  | badDistance
  | overflow
deriving DecidableEq, Repr

/-- The fault of an observation whose distance was given as `shown`. -/
def Trouble.fault (shown : Value) : Trouble → Fault
  | badDistance => .badDistance shown
  | overflow => .overflow

/-- By how much the base covariance grows at a distance. -/
def factor [Numerics α] (distance : α) : Except Trouble α :=
  if !Scalar.isFinite distance || Scalar.lt distance 0 then .error .badDistance
  else match Scalar.power? (distance / referenceDistance) 3 with
    | none => .error .overflow
    | some c => .ok (Scalar.max 1 c)

def scale (c : α) (base : Covariance α) : Covariance α := base.map (c * ·)

/-- The factor at a distance given as data. -/
def factorOf (distance : Value) : Except Fault Float := do
  let d ← distance.toFloat
  (factor d).mapError (Trouble.fault distance)

/-- The covariance at a distance, with both given as data. -/
def scaledOf (distance base : Value) : Except Fault (Covariance Float × Float) := do
  let given ← ofList (← base.items)
  let c ← factorOf distance
  let t ← Tensor.ofValue (.list given.entries)
  if h : t.data.length = 36 then return (scale c ⟨t.data, h⟩, c)
  else throw (.badReshape t.size "(36,)")

end Covariance
end Fiducial
