import Fiducial.Localizer.Basic
import Fiducial.Event.Basic

/-!
# Replay

A recording is replayed event by event through a localizer.  An event whose content is wrong is
reported and skipped, and what was done before it stays; the kinds of fault that are skipped are bad
values, wrong types, missing keys and failures at run time.  Any other fault ends the replay.
-/

namespace Fiducial.Replay

/-- A localizer in the middle of a replay, and what was counted. -/
structure State (σ α : Type) where
  localizer : Localizer σ α
  events : Nat
  cycles : Nat
  detections : Int
  accepted : Nat

structure Summary where
  events : Nat
  cycles : Nat
  detections : Int
  accepted : Nat
  tally : Tally
deriving Repr

/-- How far a replay came: its state, or the fault that ended it, and what was published. -/
structure Progress (σ α : Type) where
  outcome : Except Fault Unit
  state : State σ α
  log : List Log.Entry

/-- The faults that an event is skipped for. -/
def isSkipped (f : Fault) : Bool :=
  f.kind = .key || f.kind = .type || f.kind.isValue || f.kind.isRuntime

variable {σ α : Type}

/-- The state after one more cycle. -/
def State.count (s : State σ α) (r : Report α) : State σ α :=
  { s with
    cycles := s.cycles + 1, detections := s.detections + r.detected,
    accepted := s.accepted + r.accepted }

variable [Scalar α]

def cycleText (r : Report α) : String :=
  "cycle t=" ++ Binary.fixedText 6 (Scalar.toFloat r.stamp) ++ " " ++ r.status.message

/-- A reference pose. -/
def reference (s : State σ α) (es : List (Value × Value)) : Progress σ α :=
  match Event.reference es with
  | .error f => ⟨.error f, s, []⟩
  | .ok r => ⟨.ok (), { s with localizer := s.localizer.setReference r }, []⟩

/-- A new map. -/
def landmarks (s : State σ α) (es : List (Value × Value)) : Progress σ α :=
  match Event.landmarks es with
  | .error f => ⟨.error f, s, []⟩
  | .ok ls =>
    let reply := s.localizer.setLandmarks ls
    ⟨reply.result.map fun _ => (), { s with localizer := reply.state }, reply.log⟩

/-- One cycle of detections. -/
def cycle [Numerics α] (setup : Setup σ α) (s : State σ α) (es : List (Value × Value)) :
    Progress σ α :=
  match Event.detections es with
  | .error f => ⟨.error f, s, []⟩
  | .ok ds =>
    let stamp := (Value.lookup "t" es).getD .null
    let reply := Localizer.process setup s.localizer stamp ds none
    let s := { s with localizer := reply.state }
    match reply.result with
    | .error f => ⟨.error f, s, reply.log⟩
    | .ok r => ⟨.ok (), s.count r, reply.log ++ [.debug (cycleText r)]⟩

/-- What an event of the given type does. -/
def dispatch [Numerics α] (setup : Setup σ α) (s : State σ α) (kind : String)
    (es : List (Value × Value)) : Progress σ α :=
  if kind = "reference_pose" then reference s es
  else if kind = "detections" then cycle setup s es
  else if kind = "landmarks" then landmarks s es
  else ⟨.ok (), s, [.warning ("unknown event type: " ++ Text.quoted kind)]⟩

def kindOf (es : List (Value × Value)) : Except Fault String :=
  ((Value.lookup "type" es).getD (.str "")).name

def skippedText (kind : String) (number : Nat) : String :=
  "skip malformed " ++ (if kind = "" then "?" else kind) ++ " event #" ++ digitText number ++ ": "

/-- What is left of an event of this type: a fault in its content is reported and passed over. -/
def skipping (kind : String) (p : Progress σ α) : Progress σ α :=
  match p.outcome with
  | .ok () => p
  | .error f =>
    if isSkipped f then
      ⟨.ok (), p.state, p.log ++ [.faultWarning (skippedText kind p.state.events) f]⟩
    else p

/-- One event, which is skipped if its content is wrong.  A type that has no text is not content. -/
def step [Numerics α] (setup : Setup σ α) (s : State σ α) (event : Value) : Progress σ α :=
  let s := { s with events := s.events + 1 }
  match event with
  | .map es =>
    match kindOf es with
    | .error f => ⟨.error f, s, []⟩
    | .ok kind => skipping kind (dispatch setup s kind es)
  | v => ⟨.error (.noMember ("'" ++ v.kindName ++ "' object has no attribute 'get'")), s, []⟩

/-- Events in order, up to the first fault that ends the replay. -/
def steps [Numerics α] (setup : Setup σ α) (s : State σ α) : List Value → Progress σ α
  | [] => ⟨.ok (), s, []⟩
  | e :: es =>
    let p := step setup s e
    match p.outcome with
    | .error _ => p
    | .ok () =>
      let rest := steps setup p.state es
      ⟨rest.outcome, rest.state, p.log ++ rest.log⟩

def State.summary (s : State σ α) : Summary :=
  ⟨s.events, s.cycles, s.detections, s.accepted, s.localizer.fuser.tally⟩

def start (published : σ) : State σ α := ⟨Localizer.new published, 0, 0, 0, 0⟩

/-- A replay with its map, its events and the fault, if any, in which reading the events ended. -/
def run [Numerics α] (setup : Setup σ α) (published : σ) (map : List (Landmark α))
    (events : List Value) (ending : Option Fault) : Progress σ α :=
  let s : State σ α := start published
  let loaded := s.localizer.setLandmarks (map.map .ok)
  let s := { s with localizer := loaded.state }
  match loaded.result with
  | .error f => ⟨.error f, s, loaded.log⟩
  | .ok _ =>
    let p := steps setup s events
    let outcome := match p.outcome, ending with
      | .ok (), some f => .error f
      | o, _ => o
    ⟨outcome, p.state, loaded.log ++ p.log⟩

end Fiducial.Replay
