import Fiducial.Landmark

/-!
# Rejections

Why a detection is not used.  A rejection carries the numbers that decided, so that its `detail` can
say them; its `reason` is what the counters count.
-/

namespace Fiducial

inductive Reason where
  | notWhitelisted
  | notInRegistry
  | outOfRange
  | transformUnavailable
  | noReferencePose
  | staleReference
  | inconsistentPosition
deriving DecidableEq, Repr

namespace Reason

def all : List Reason :=
  [notWhitelisted, notInRegistry, outOfRange, transformUnavailable, noReferencePose,
    staleReference, inconsistentPosition]

def name : Reason → String
  | notWhitelisted => "not_whitelisted"
  | notInRegistry => "not_in_registry"
  | outOfRange => "out_of_range"
  | transformUnavailable => "transform_unavailable"
  | noReferencePose => "no_reference_pose"
  | staleReference => "stale_reference"
  | inconsistentPosition => "inconsistent_position"

end Reason

inductive Rejection (α : Type) where
  | notWhitelisted (id : String)
  | notInRegistry (id : String)
  | distanceNotFinite (distanceSq : α)
  | tooFar (distanceSq limitSq : α)
  | noTransform (base sensor why : String)
  | noReference
  | stale (tolerance reference detection : α)
  | poseNotFinite
  | apart (tolerance : α) (pose reference : Vec3 α)
deriving Repr

namespace Rejection

variable {α : Type}

def reason : Rejection α → Reason
  | notWhitelisted _ => .notWhitelisted
  | notInRegistry _ => .notInRegistry
  | distanceNotFinite _ | tooFar .. => .outOfRange
  | noTransform .. => .transformUnavailable
  | noReference => .noReferencePose
  | stale .. => .staleReference
  | poseNotFinite | apart .. => .inconsistentPosition

variable [Scalar α]

/-- A scalar with a fixed number of places. -/
def fixed (n : Nat) (a : α) : String := Binary.fixedText n (Scalar.toFloat a)

def pointText (p : Vec3 α) : String :=
  "(" ++ ", ".intercalate (p.toList.map (fixed 6)) ++ ")"

/-- The rejection in words, with lengths and times to six places and squares to three. -/
def detail : Rejection α → String
  | notWhitelisted id => "tag_id(" ++ id ++ ") is not in target_tag_ids"
  | notInRegistry id => "tag_id(" ++ id ++ ") is not in landmark map"
  | distanceNotFinite d =>
    "distance^2=" ++ Binary.shortestText (Scalar.toFloat d) ++ " is not finite"
  | tooFar d limit => "distance^2=" ++ fixed 3 d ++ " exceeds threshold^2=" ++ fixed 3 limit
  | noTransform base sensor why =>
    "Could not transform " ++ base ++ " to " ++ sensor ++ ": " ++ why
  | noReference => "no reference pose has been received"
  | stale tolerance reference detection =>
    "reference pose is older than " ++ fixed 6 tolerance ++
      " seconds compared to current frame. reference.stamp=" ++ fixed 6 reference ++
      ", detection.stamp=" ++ fixed 6 detection
  | poseNotFinite => "candidate pose contains non-finite values"
  | apart tolerance pose reference =>
    "curr_pose differs from reference pose by more than " ++ fixed 6 tolerance ++
      " m. curr_pose: " ++ pointText pose ++ ", reference: " ++ pointText reference

end Rejection
end Fiducial
