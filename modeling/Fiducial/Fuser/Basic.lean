import Fiducial.Fuser.Judgement

/-!
# The fuser

The fuser judges one detection after the other and keeps nothing of them but counts.  An accepted
estimate is counted first and then handed to the publisher, which may refuse it with a fault; then
the count stands but there is no outcome.
-/

namespace Fiducial

/-- How many detections were accepted, and how many rejected for each reason. -/
structure Tally where
  accepted : Nat := 0
  notWhitelisted : Nat := 0
  notInRegistry : Nat := 0
  outOfRange : Nat := 0
  transformUnavailable : Nat := 0
  noReferencePose : Nat := 0
  staleReference : Nat := 0
  inconsistentPosition : Nat := 0
deriving DecidableEq, Repr, Inhabited

namespace Tally

def empty : Tally := {}

def count (t : Tally) : Reason → Nat
  | .notWhitelisted => t.notWhitelisted
  | .notInRegistry => t.notInRegistry
  | .outOfRange => t.outOfRange
  | .transformUnavailable => t.transformUnavailable
  | .noReferencePose => t.noReferencePose
  | .staleReference => t.staleReference
  | .inconsistentPosition => t.inconsistentPosition

def accept (t : Tally) : Tally := { t with accepted := t.accepted + 1 }

def reject (t : Tally) : Reason → Tally
  | .notWhitelisted => { t with notWhitelisted := t.notWhitelisted + 1 }
  | .notInRegistry => { t with notInRegistry := t.notInRegistry + 1 }
  | .outOfRange => { t with outOfRange := t.outOfRange + 1 }
  | .transformUnavailable => { t with transformUnavailable := t.transformUnavailable + 1 }
  | .noReferencePose => { t with noReferencePose := t.noReferencePose + 1 }
  | .staleReference => { t with staleReference := t.staleReference + 1 }
  | .inconsistentPosition => { t with inconsistentPosition := t.inconsistentPosition + 1 }

/-- The counts under their names. -/
def entries (t : Tally) : List (String × Nat) :=
  ("accepted", t.accepted) :: Reason.all.map fun r => (r.name, t.count r)

def total (t : Tally) : Nat := (t.entries.map (·.2)).foldl (· + ·) 0

end Tally

/-- Hands an estimate on; a refusal leaves what was published as it is. -/
def Publisher (σ α : Type) : Type := σ → Estimate α → Except Fault σ

structure Outcome (α : Type) where
  id : String
  verdict : Verdict α

namespace Fuser

/-- The counts of a fuser and what its publisher has so far. -/
structure State (σ : Type) where
  tally : Tally
  published : σ

/-- The result of an operation on a fuser. -/
structure Step (σ β : Type) where
  result : Except Fault β
  state : State σ
  queries : List Query
  log : List Log.Entry

variable {σ α : Type} [Scalar α]

def rejectionText (id : String) (r : Rejection α) : String :=
  "reject landmark " ++ id ++ " (" ++ r.reason.name ++ "): " ++ r.detail

/-- The state after a judgement, and the outcome unless publishing fails. -/
def settle (publish : Publisher σ α) (state : State σ) (id : String) (j : Judgement α) :
    Step σ (Outcome α) :=
  match j.verdict with
  | .error f => ⟨.error f, state, j.queries, j.log⟩
  | .ok (.rejected r) =>
    ⟨.ok ⟨id, .rejected r⟩, { state with tally := state.tally.reject r.reason }, j.queries,
      j.log ++ [.info (rejectionText id r)]⟩
  | .ok (.accepted e) =>
    let tally := state.tally.accept
    match publish state.published e with
    | .error f => ⟨.error f, { state with tally }, j.queries, j.log⟩
    | .ok published => ⟨.ok ⟨id, .accepted e⟩, ⟨tally, published⟩, j.queries, j.log⟩

variable [Numerics α]

def process (c : FuserConfig α) (s : Services α) (publish : Publisher σ α) (state : State σ)
    (d : Detection α) : Step σ (Outcome α) :=
  settle publish state d.id (Judgement.of c s d)

/-- The outcomes of detections in order; a fault ends them and keeps what was done before it. -/
def processAll (c : FuserConfig α) (s : Services α) (publish : Publisher σ α) :
    State σ → List (Detection α) → Step σ (List (Outcome α))
  | state, [] => ⟨.ok [], state, [], []⟩
  | state, d :: ds =>
    let first := process c s publish state d
    match first.result with
    | .error f => ⟨.error f, first.state, first.queries, first.log⟩
    | .ok o =>
      let rest := processAll c s publish first.state ds
      ⟨rest.result.map (o :: ·), rest.state, first.queries ++ rest.queries, first.log ++ rest.log⟩

def countAccepted (os : List (Outcome α)) : Nat := os.countP (·.verdict.isAccepted)

/-- The number of accepted detections among some. -/
def processBatch (c : FuserConfig α) (s : Services α) (publish : Publisher σ α)
    (state : State σ) (ds : List (Detection α)) : Step σ Nat :=
  let all := processAll c s publish state ds
  ⟨all.result.map countAccepted, all.state, all.queries, all.log⟩

end Fuser
end Fiducial
