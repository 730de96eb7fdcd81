import Fiducial.Gate.Basic
import Fiducial.Log

/-!
# Judging a detection

A detection passes through the gates in a fixed order: whitelist, registry, range, transform, age of
the reference pose, distance from the reference pose.  The first gate that it fails decides, and no
later service is asked.  A detection that passes them all becomes an estimate.

The services keep account of what they are asked, so that their use can be told apart from the
verdict.  Arithmetic that leaves the range of the scalars is a fault instead of a verdict, and so is
a matrix from the frame service that cannot be composed with others.
-/

namespace Fiducial

/-- The settings of a fuser. -/
structure FuserConfig (α : Type) where
  gates : GateConfig α
  covariance : Covariance α
  mapFrame : String
  baseFrame : String

/-- Where a fuser looks things up. -/
structure Services (α : Type) where
  landmark : String → Option (Landmark α)
  /-- The pose of the second frame in the first. -/
  frames : String → String → FrameReply α
  reference : Option (ReferencePose α)

/-- A question put to a service. -/
inductive Query where
  | landmark (id : String)
  | frames (target source : String)
  | reference
deriving DecidableEq, Repr

/-- What a service gave, with the question that was put to it and what was reported. -/
structure Asked (β : Type) where
  answer : β
  query : Query
  log : List Log.Entry

namespace Services

variable {α : Type}

def askLandmark (s : Services α) (id : String) : Asked (Option (Landmark α)) :=
  ⟨s.landmark id, .landmark id, []⟩

/-- A frame service that fails is reported, and its answer then counts as missing. -/
def frameLog (base sensor : String) : FrameReply α → List Log.Entry
  | .answer (.failed cause) =>
    [.faultWarning ("frame transform service failed (" ++ base ++ " <- " ++ sensor ++ "): ") cause]
  | _ => []

def askFrames (s : Services α) (base sensor : String) : Asked (FrameReply α) :=
  let reply := s.frames base sensor
  ⟨reply, .frames base sensor, frameLog base sensor reply⟩

def askReference (s : Services α) : Asked (Option (ReferencePose α)) :=
  ⟨s.reference, .reference, []⟩

end Services

inductive Verdict (α : Type) where
  | accepted (e : Estimate α)
  | rejected (r : Rejection α)

def Verdict.isAccepted {α : Type} : Verdict α → Bool
  | accepted _ => true
  | rejected _ => false

/-- A verdict, with the questions put to the services on the way to it and what was reported. -/
structure Judgement (α : Type) where
  verdict : Except Fault (Verdict α)
  queries : List Query
  log : List Log.Entry

namespace Judgement

variable {α : Type}

/-- A verdict for which no service is needed. -/
def settled (verdict : Except Fault (Verdict α)) : Judgement α := ⟨verdict, [], []⟩

def reject (r : Rejection α) : Judgement α := settled (.ok (.rejected r))

/-- Goes on with what a service gave. -/
def after {β : Type} (asked : Asked β) (next : β → Judgement α) : Judgement α :=
  let rest := next asked.answer
  ⟨rest.verdict, asked.query :: rest.queries, asked.log ++ rest.log⟩

variable [Scalar α] [Numerics α]

/-- The estimate of a detection that passed, with the pose already known. -/
def estimate (c : FuserConfig α) (d : Detection α) (pose : Transform α) :
    Except Fault (Estimate α) :=
  let distance := Scalar.sqrt (Gate.distanceSq d.pose)
  match Covariance.factor distance with
  | .error t => .error (t.fault (.float (Scalar.toFloat distance)))
  | .ok s => .ok ⟨d.stamp, c.mapFrame, d.id, pose, c.covariance.scale s, distance, s⟩

/-- The last two gates, for a detection that gives a pose. -/
def compareWith (c : FuserConfig α) (d : Detection α) (pose : Transform α) :
    Option (ReferencePose α) → Except Fault (Verdict α)
  | none => .ok (.rejected .noReference)
  | some reference =>
    match Gate.temporal c.gates.time d.stamp reference with
    | some r => .ok (.rejected r)
    | none =>
      match Gate.spatial c.gates.position pose reference with
      | some r => .ok (.rejected r)
      | none => (estimate c d pose).map .accepted

/-- The gates from the transform on, with what the frame service gave. -/
def place (c : FuserConfig α) (s : Services α) (d : Detection α) (landmark : Landmark α) :
    FrameReply α → Judgement α
  | .misshapen shape _ => settled (.error (.notTransforms shape [4, 4]))
  | .answer answer =>
    match Gate.transform answer c.baseFrame d.sensor with
    | .error r => reject r
    | .ok sensor =>
      after s.askReference fun reference =>
        settled (compareWith c d (Transform.vehicleOnMap landmark.pose sensor d.pose) reference)

/-- The gates from the range on, for a detection of a known landmark. -/
def locate (c : FuserConfig α) (s : Services α) (d : Detection α) (landmark : Landmark α) :
    Judgement α :=
  match Gate.range c.gates.distance (Gate.distanceSq d.pose) with
  | .error f => settled (.error f)
  | .ok (some r) => reject r
  | .ok none => after (s.askFrames c.baseFrame d.sensor) (place c s d landmark)

/-- What becomes of a detection. -/
def of (c : FuserConfig α) (s : Services α) (d : Detection α) : Judgement α :=
  match Gate.whitelist c.gates.whitelist d.id with
  | some r => reject r
  | none =>
    after (s.askLandmark d.id) fun
      | none => reject (.notInRegistry d.id)
      | some landmark => locate c s d landmark

end Judgement
end Fiducial
