import Fiducial.Proofs.OriginScene
import Fiducial.Proofs.ReplaySteps

/-!
# Events that a replay passes over

An event of an unknown type, or one whose content cannot be read, leaves no trace.  The state after
it is the state before it with one more event counted, whatever had been read of it when the fault
was found.  The number of events has no part in what later events do, so two runs whose states
differ only in this number stay alike.  Hence a replay without the event publishes the same, counts
the same and returns as well.
-/

namespace Fiducial
namespace Replay

section Reading

variable (α : Type) [Scalar α]

/-- An event of no known type, or one whose content is read with a fault that is skipped: the
reference pose, one of the detections, the list of landmarks, or the landmarks one by one up to a
bad entry or a repeated id. -/
inductive Malformed (es : List (Value × Value)) : Prop
  | unknown {kind : String} (hkind : kindOf es = .ok kind) (hreference : kind ≠ "reference_pose")
      (hdetections : kind ≠ "detections") (hlandmarks : kind ≠ "landmarks") : Malformed es
  | reference {f : Fault} (hkind : kindOf es = .ok "reference_pose")
      (hread : (Event.reference es : Except Fault (ReferencePose α)) = .error f)
      (hskipped : isSkipped f = true) : Malformed es
  | detections {f : Fault} (hkind : kindOf es = .ok "detections")
      (hread : (Event.detections es : Except Fault (List (Detection α))) = .error f)
      (hskipped : isSkipped f = true) : Malformed es
  | listing {f : Fault} (hkind : kindOf es = .ok "landmarks")
      (hread : (Event.landmarks es : Except Fault (List (Except Fault (Landmark α)))) = .error f)
      (hskipped : isSkipped f = true) : Malformed es
  | landmarks {f : Fault} {ls : List (Except Fault (Landmark α))}
      (hkind : kindOf es = .ok "landmarks") (hread : Event.landmarks es = .ok ls)
      (hcollect : Registry.collect ls = .error f) (hskipped : isSkipped f = true) : Malformed es

end Reading

variable {σ α : Type}

/-- Two steps that do the same to states which differ in the number of events only. -/
structure Progress.SameNumbered (n : Nat) (p p' : Progress σ α) : Prop where
  outcome_eq : p'.outcome = p.outcome
  state_eq : p'.state = p.state.numbered n

theorem skipping_numbered {n : Nat} {p p' : Progress σ α} (hsame : p.SameNumbered n p')
    (kind : String) : (skipping kind p).SameNumbered n (skipping kind p') := by
  constructor
  · have houtcome := hsame.outcome_eq
    unfold skipping
    rw [houtcome]
    cases hp : p.outcome with
    | ok u => exact houtcome
    | error f =>
        dsimp only
        split
        · rfl
        · exact houtcome
  · rw [skipping_state, skipping_state]
    exact hsame.state_eq

/-! ## One event -/

variable [Scalar α] [Numerics α] {setup : Setup σ α}

/-- A malformed event changes nothing but the number of events. -/
theorem dispatch_malformed (setup : Setup σ α) (s : State σ α) {es : List (Value × Value)}
    (hmalformed : Malformed α es) :
    ∃ kind, kindOf es = .ok kind ∧ (dispatch setup s kind es).state = s ∧
      ∀ f, (dispatch setup s kind es).outcome = .error f → isSkipped f = true := by
  cases hmalformed with
  | unknown hkind hreference hdetections hlandmarks =>
      refine ⟨_, hkind, ?_⟩
      simp [dispatch, hreference, hdetections, hlandmarks]
  | reference hkind hread hskipped =>
      refine ⟨_, hkind, ?_⟩
      simp [dispatch, reference, hread, hskipped]
  | detections hkind hread hskipped =>
      refine ⟨_, hkind, ?_⟩
      simp [dispatch, cycle, hread, hskipped]
  | listing hkind hread hskipped =>
      refine ⟨_, hkind, ?_⟩
      simp [dispatch, landmarks, hread, hskipped]
  | landmarks hkind hread hcollect hskipped =>
      refine ⟨_, hkind, ?_⟩
      simp [dispatch, landmarks, hread, Localizer.setLandmarks, hcollect, hskipped, Except.map]

/-! ## The number of events has no part in what is done -/

theorem cycle_numbered (n : Nat) (s : State σ α) (es : List (Value × Value)) :
    (cycle setup s es).SameNumbered n (cycle setup (s.numbered n) es) := by
  unfold cycle
  cases (Event.detections es : Except Fault (List (Detection α))) with
  | error f => exact ⟨rfl, rfl⟩
  | ok ds =>
      dsimp only [State.numbered_localizer]
      cases (Localizer.process setup s.localizer ((Value.lookup "t" es).getD .null) ds
        none).result <;> exact ⟨rfl, rfl⟩

theorem dispatch_numbered (n : Nat) (s : State σ α) (kind : String) (es : List (Value × Value)) :
    (dispatch setup s kind es).SameNumbered n (dispatch setup (s.numbered n) kind es) := by
  unfold dispatch
  split
  · unfold reference
    cases (Event.reference es : Except Fault (ReferencePose α)) <;> exact ⟨rfl, rfl⟩
  · split
    · exact cycle_numbered n s es
    · split
      · unfold landmarks
        cases (Event.landmarks es : Except Fault (List (Except Fault (Landmark α)))) <;>
          exact ⟨rfl, rfl⟩
      · exact ⟨rfl, rfl⟩

theorem step_numbered (n : Nat) (s : State σ α) (event : Value) :
    (step setup s event).SameNumbered (n + 1) (step setup (s.numbered n) event) := by
  cases event with
  | map es =>
      cases hkind : kindOf es with
      | error f =>
          simp only [step, hkind]
          exact ⟨rfl, rfl⟩
      | ok kind =>
          rw [step_of_kind s hkind, step_of_kind (s.numbered n) hkind]
          apply skipping_numbered
          exact dispatch_numbered (n + 1) (s.numbered (s.events + 1)) kind es
  | _ => exact ⟨rfl, rfl⟩

/-- A run that returns does so from any number of events, and ends alike. -/
theorem steps_numbered (n : Nat) (s : State σ α) (events : List Value)
    (hreturns : (steps setup s events).outcome = .ok ()) :
    (steps setup s events).SameNumbered (n + events.length)
      (steps setup (s.numbered n) events) := by
  induction events generalizing n s with
  | nil => exact ⟨rfl, rfl⟩
  | cons e events ih =>
      have hstep : (step setup s e).SameNumbered (n + 1) (step setup (s.numbered n) e) :=
        step_numbered n s e
      cases hfirst : (step setup s e).outcome with
      | error f =>
          simp only [steps, hfirst] at hreturns
          cases hreturns
      | ok u =>
          have hfirst' : (step setup (s.numbered n) e).outcome = .ok u :=
            hstep.outcome_eq.trans hfirst
          simp only [steps, hfirst] at hreturns
          have hrest := ih (n + 1) (step setup s e).state hreturns
          simp only [steps, hfirst, hfirst', hstep.state_eq]
          rw [List.length_cons, Nat.add_comm events.length 1, ← Nat.add_assoc]
          exact ⟨hrest.outcome_eq, hrest.state_eq⟩

/-! ## Replays -/

/-- What a replay without one event is beside the replay with it. -/
structure LacksOneEvent (full rest : Progress σ α) : Prop where
  returns : rest.outcome = .ok ()
  published_eq :
    rest.state.localizer.fuser.published = full.state.localizer.fuser.published
  localizer_eq : rest.state.localizer = full.state.localizer
  events_eq : full.state.summary.events = rest.state.summary.events + 1
  cycles_eq : rest.state.summary.cycles = full.state.summary.cycles
  detections_eq : rest.state.summary.detections = full.state.summary.detections
  accepted_eq : rest.state.summary.accepted = full.state.summary.accepted
  tally_eq : rest.state.summary.tally = full.state.summary.tally

theorem step_malformed (setup : Setup σ α) (s : State σ α) {es : List (Value × Value)}
    (hmalformed : Malformed α es) :
    (step setup s (.map es)).outcome = .ok () ∧
      (step setup s (.map es)).state = s.numbered (s.events + 1) := by
  obtain ⟨kind, hkind, hstate, hskipped⟩ :=
    dispatch_malformed setup (s.numbered (s.events + 1)) hmalformed
  rw [step_of_kind s hkind]
  constructor
  · exact (skipping_ok_iff kind _).mpr hskipped
  · rw [skipping_state]
    exact hstate

/-- Without a malformed event a run comes to the same state, with one event less. -/
theorem steps_erase_malformed {s : State σ α} {before after : List Value}
    {es : List (Value × Value)} (hmalformed : Malformed α es)
    (hreturns : (steps setup s (before ++ .map es :: after)).outcome = .ok ()) :
    ∃ n, (steps setup s (before ++ after)).outcome = .ok () ∧
      (steps setup s (before ++ after)).state.events = n ∧
      (steps setup s (before ++ .map es :: after)).state =
        (steps setup s (before ++ after)).state.numbered (n + 1) := by
  obtain ⟨hbefore, hrest, hstate⟩ := steps_append_ok hreturns
  let t := (steps setup s before).state
  -- the later events run from `t` in one replay, from `t` with one more event counted in the other
  obtain ⟨_, hstep⟩ := step_malformed setup t hmalformed
  obtain ⟨_, hafter, hstate'⟩ := steps_cons_ok hrest
  rw [hstep] at hafter hstate'
  obtain ⟨houtcome, hsplit⟩ := steps_append_of_ok hbefore after
  have hsame : (steps setup (t.numbered (t.events + 1)) after).SameNumbered
      (t.events + after.length) (steps setup t after) :=
    steps_numbered t.events (t.numbered (t.events + 1)) after hafter
  have hevents : (steps setup (t.numbered (t.events + 1)) after).state.events =
      t.events + after.length + 1 := by
    rw [steps_events _ _ hafter, State.numbered_events]
    omega
  refine ⟨t.events + after.length, ?_, ?_, ?_⟩
  · rw [houtcome, hsame.outcome_eq, hafter]
  · rw [hsplit, hsame.state_eq, State.numbered_events]
  · rw [hsplit, hsame.state_eq, hstate, hstate', State.numbered_numbered, ← hevents,
      State.numbered_self]

/-- A replay that returns does the same without a malformed event: it publishes the same, its
counts are the same, and it has one event less. -/
theorem run_erase_malformed (setup : Setup σ α) (published : σ) (map : List (Landmark α))
    {before after : List Value} {es : List (Value × Value)} {ending : Option Fault}
    (hmalformed : Malformed α es)
    (hreturns :
      (run setup published map (before ++ .map es :: after) ending).outcome = .ok ()) :
    LacksOneEvent (run setup published map (before ++ .map es :: after) ending)
      (run setup published map (before ++ after) ending) := by
  obtain ⟨rfl, r, hcollect⟩ := run_ok hreturns
  obtain ⟨houtcome, hstate⟩ :=
    run_of_collect setup published hcollect (before ++ .map es :: after)
  obtain ⟨houtcome', hstate'⟩ :=
    run_of_collect setup published hcollect (before ++ after)
  rw [houtcome] at hreturns
  obtain ⟨n, hreturns', hevents, hsame⟩ := steps_erase_malformed hmalformed hreturns
  constructor
  case returns => rw [houtcome', hreturns']
  case events_eq =>
    rw [hstate, hstate', hsame]
    simp [State.summary, hevents]
  all_goals rw [hstate, hstate', hsame]; rfl

/-! ## A map that repeats an id -/

/-- A reference pose and a cycle at the origin, with other events between them. -/
def eventsAround (between : List (List (Value × Value))) : List Value :=
  .map OriginScene.referenceEvent ::
    between.map .map ++ [.map (OriginScene.detectionsEvent ["5"])]

def failsSkipped {β : Type} : Except Fault β → Bool
  | .error f => isSkipped f
  | .ok _ => false

theorem exists_of_failsSkipped {β : Type} {x : Except Fault β} (hfails : failsSkipped x = true) :
    ∃ f, x = .error f ∧ isSkipped f = true := by
  cases x with
  | error f => exact ⟨f, rfl, hfails⟩
  | ok b => cases hfails

theorem malformed_repeated_id : Malformed Float (OriginScene.landmarksEvent ["5", "5"]) := by
  have hkind : kindOf (OriginScene.landmarksEvent ["5", "5"]) = .ok "landmarks" := by cbv
  let entries : List (Except Fault (Landmark Float)) :=
    LandmarkMap.entries (["5", "5"].map fun id =>
      .map [(.str "id", .str id), (.str "position", OriginScene.point)])
  have hfails : failsSkipped (Registry.collect entries) = true := by decide +kernel
  obtain ⟨f, hcollect, hskipped⟩ := exists_of_failsSkipped hfails
  exact .landmarks hkind rfl hcollect hskipped

open scoped OriginScene in
/-- A map in the middle of a replay that repeats an id does not keep the record of the cycle after
it from being written. -/
theorem run_erase_malformed_repeated_id :
    LacksOneEvent
        (run OriginScene.loggingSetup (PoseLog.new 1 0 0) [OriginScene.landmark]
          (eventsAround [OriginScene.landmarksEvent ["5", "5"]]) none)
        (run OriginScene.loggingSetup (PoseLog.new 1 0 0) [OriginScene.landmark]
          (eventsAround []) none) ∧
      (run OriginScene.loggingSetup (PoseLog.new 1 0 0) [OriginScene.landmark]
        (eventsAround []) none).state.localizer.fuser.published.written = 1 := by
  constructor
  · have hreturns : (run OriginScene.loggingSetup (PoseLog.new 1 0 0) [OriginScene.landmark]
        (eventsAround [OriginScene.landmarksEvent ["5", "5"]]) none).outcome = .ok () :=
      Progress.returns_of_isOk (by decide +kernel)
    have hwith : eventsAround [OriginScene.landmarksEvent ["5", "5"]] =
        [.map OriginScene.referenceEvent] ++ .map (OriginScene.landmarksEvent ["5", "5"]) ::
          [.map (OriginScene.detectionsEvent ["5"])] := rfl
    have hwithout : eventsAround [] =
        [.map OriginScene.referenceEvent] ++ [.map (OriginScene.detectionsEvent ["5"])] := rfl
    rw [hwith] at hreturns ⊢
    rw [hwithout]
    exact run_erase_malformed _ _ _ malformed_repeated_id hreturns
  · decide +kernel

end Replay
end Fiducial
