import Fiducial.Proofs.ReplaySteps
import Fiducial.Proofs.SessionAccounts

/-!
# What a replay publishes

The estimates that a replay publishes are read off a record that is kept beside the publisher.  With
the record the replay has the same outcome, the same log and the same state, from the fuser up to
the whole run.
-/

namespace Fiducial

variable {σ α : Type}

/-! ## The fuser -/

namespace Fuser

def Step.unrecorded {β : Type} (x : Step (σ × List (Estimate α)) β) : Step σ β :=
  ⟨x.result, x.state.unrecorded, x.queries, x.log⟩

variable [Scalar α] [Numerics α] (c : FuserConfig α) (s : Services α) (publish : Publisher σ α)

theorem process_eq_unrecorded (state : State (σ × List (Estimate α))) (d : Detection α) :
    process c s publish state.unrecorded d = (process c s publish.recorded state d).unrecorded := by
  unfold process settle
  cases (Judgement.of c s d).verdict with
  | error f => rfl
  | ok v =>
      cases v with
      | rejected why => rfl
      | accepted e =>
          simp only [Publisher.recorded, State.unrecorded]
          cases publish state.published.1 e <;> rfl

theorem processAll_eq_unrecorded (state : State (σ × List (Estimate α)))
    (ds : List (Detection α)) :
    processAll c s publish state.unrecorded ds =
      (processAll c s publish.recorded state ds).unrecorded := by
  induction ds generalizing state with
  | nil => rfl
  | cons d ds ih =>
      simp only [processAll, process_eq_unrecorded, Step.unrecorded]
      cases (process c s publish.recorded state d).result with
      | error f => rfl
      | ok o =>
          simp only [ih]
          rfl

end Fuser

/-! ## The localizer -/

def Reply.unrecorded {β : Type} (r : Reply (σ × List (Estimate α)) α β) : Reply σ α β :=
  ⟨r.result, r.state.unrecorded, r.log⟩

namespace Localizer

theorem setLandmarks_eq_unrecorded (l : Localizer (σ × List (Estimate α)) α)
    (ls : List (Except Fault (Landmark α))) :
    l.unrecorded.setLandmarks ls = (l.setLandmarks ls).unrecorded := by
  unfold setLandmarks
  cases Registry.collect ls <;> rfl

variable [Scalar α] [Numerics α]

theorem process_eq_unrecorded (s : Setup σ α) (l : Localizer (σ × List (Estimate α)) α)
    (stamp : Value) (ds : List (Detection α)) (detected : Option Value) :
    process s l.unrecorded stamp ds detected =
      (process s.recording l stamp ds detected).unrecorded := by
  have hall :
      Fuser.processAll s.fuser (l.unrecorded.services s) s.publish l.fuser.unrecorded ds =
        (Fuser.processAll s.fuser (l.services s.recording) s.publish.recorded l.fuser
          ds).unrecorded :=
    Fuser.processAll_eq_unrecorded s.fuser (l.services s.recording) s.publish l.fuser ds
  have hfuser : l.unrecorded.fuser = l.fuser.unrecorded := rfl
  simp only [process, hfuser, hall]
  rfl

end Localizer

/-! ## The replay -/

namespace Replay

def State.unrecorded (s : State (σ × List (Estimate α)) α) : State σ α :=
  ⟨s.localizer.unrecorded, s.events, s.cycles, s.detections, s.accepted⟩

def Progress.unrecorded (p : Progress (σ × List (Estimate α)) α) : Progress σ α :=
  ⟨p.outcome, p.state.unrecorded, p.log⟩

variable [Scalar α] [Numerics α] (setup : Setup σ α) (s : State (σ × List (Estimate α)) α)

omit [Numerics α] in
theorem reference_eq_unrecorded (es : List (Value × Value)) :
    reference s.unrecorded es = (reference s es).unrecorded := by
  unfold reference
  cases (Event.reference es : Except Fault (ReferencePose α)) <;> rfl

theorem cycle_eq_unrecorded (es : List (Value × Value)) :
    cycle setup s.unrecorded es = (cycle setup.recording s es).unrecorded := by
  unfold cycle
  cases (Event.detections es : Except Fault (List (Detection α))) with
  | error f => rfl
  | ok ds =>
      simp only [State.unrecorded, Localizer.process_eq_unrecorded, Reply.unrecorded]
      cases (Localizer.process setup.recording s.localizer ((Value.lookup "t" es).getD .null) ds
        none).result <;> rfl

omit [Numerics α] in
theorem landmarks_eq_unrecorded (es : List (Value × Value)) :
    landmarks s.unrecorded es = (landmarks s es).unrecorded := by
  unfold landmarks
  cases (Event.landmarks es : Except Fault (List (Except Fault (Landmark α)))) with
  | error f => rfl
  | ok ls =>
      simp only [State.unrecorded, Localizer.setLandmarks_eq_unrecorded]
      rfl

theorem dispatch_eq_unrecorded (kind : String) (es : List (Value × Value)) :
    dispatch setup s.unrecorded kind es = (dispatch setup.recording s kind es).unrecorded := by
  unfold dispatch
  split
  · exact reference_eq_unrecorded s es
  · split
    · exact cycle_eq_unrecorded setup s es
    · split
      · exact landmarks_eq_unrecorded s es
      · rfl

omit [Scalar α] in
omit [Numerics α] in
theorem skipping_unrecorded (kind : String) (p : Progress (σ × List (Estimate α)) α) :
    skipping kind p.unrecorded = (skipping kind p).unrecorded := by
  unfold skipping
  dsimp only [Progress.unrecorded]
  split
  next => rfl
  next => split <;> rfl

theorem step_eq_unrecorded (event : Value) :
    step setup s.unrecorded event = (step setup.recording s event).unrecorded := by
  cases event with
  | map es =>
      cases hkind : kindOf es with
      | error f =>
          simp only [step, hkind]
          rfl
      | ok kind =>
          rw [step_of_kind _ hkind, step_of_kind _ hkind, ← skipping_unrecorded,
            ← dispatch_eq_unrecorded]
          rfl
  | _ => rfl

theorem steps_eq_unrecorded (events : List Value) :
    steps setup s.unrecorded events = (steps setup.recording s events).unrecorded := by
  induction events generalizing s with
  | nil => rfl
  | cons e events ih =>
      simp only [steps, step_eq_unrecorded]
      cases step setup.recording s e with
      | mk outcome state log =>
          cases outcome with
          | error f => rfl
          | ok u =>
              simp only [Progress.unrecorded, ih]

/-- The record changes nothing else. -/
theorem run_eq_unrecorded (published : σ) (map : List (Landmark α)) (events : List Value)
    (ending : Option Fault) :
    run setup published map events ending =
      (run setup.recording (published, []) map events ending).unrecorded := by
  let recorded : State (σ × List (Estimate α)) α := start (published, [])
  have hstart : (start published : State σ α) = recorded.unrecorded := rfl
  have hload : recorded.unrecorded.localizer.setLandmarks (map.map .ok) =
      (recorded.localizer.setLandmarks (map.map .ok)).unrecorded :=
    Localizer.setLandmarks_eq_unrecorded recorded.localizer _
  simp only [run, hstart, hload, Reply.unrecorded]
  cases (recorded.localizer.setLandmarks (map.map .ok)).result with
  | error f => rfl
  | ok r =>
      have hsteps := steps_eq_unrecorded setup
        { recorded with localizer := (recorded.localizer.setLandmarks (map.map .ok)).state } events
      simp only [State.unrecorded] at hsteps ⊢
      rw [hsteps]
      rfl

/-- All estimates that a replay publishes, in order. -/
def publishedBy (setup : Setup σ α) (published : σ) (map : List (Landmark α))
    (events : List Value) (ending : Option Fault) : List (Estimate α) :=
  (run setup.recording (published, []) map events ending).state.localizer.fuser.published.2

end Replay

end Fiducial
