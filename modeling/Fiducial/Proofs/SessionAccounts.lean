import Fiducial.Proofs.FuserLedger
import Fiducial.Proofs.SnapshotSimulation

/-!
# The accounts of a session

A fuser is used through single detections, through batches and through the cycles of its localizer,
in any order and with any services.  As long as the publisher refuses nothing, the counts say how
many outcomes of each kind were returned, and the outcomes say what was published.  A use that fails
leaves the outcomes that it returned on the way.

What was published is read off a record that is kept beside the publisher.  The record changes
nothing else.
-/

namespace Fiducial

variable {σ α : Type}

/-! ## A record of what is published -/

def Publisher.recorded (publish : Publisher σ α) : Publisher (σ × List (Estimate α)) α :=
  fun p e => (publish p.1 e).map fun next => (next, p.2 ++ [e])

theorem Publisher.NeverRefuses.recorded {publish : Publisher σ α}
    (hpublish : publish.NeverRefuses) : publish.recorded.NeverRefuses := by
  intro p e
  obtain ⟨next, hnext⟩ := hpublish p.1 e
  refine ⟨(next, p.2 ++ [e]), ?_⟩
  rw [Publisher.recorded, hnext]
  rfl

theorem Publisher.record_all {publish : Publisher σ α} {p q : σ × List (Estimate α)}
    {es : List (Estimate α)} (hall : publish.recorded.all p es = .ok q) : q.2 = p.2 ++ es := by
  induction es generalizing p with
  | nil =>
      cases hall
      exact (List.append_nil _).symm
  | cons e es ih =>
      cases hpublish : publish p.1 e with
      | error f =>
          have hrecorded : publish.recorded p e = .error f := by
            rw [Publisher.recorded, hpublish]
            rfl
          simp [all, hrecorded] at hall
      | ok next =>
          have hrecorded : publish.recorded p e = .ok (next, p.2 ++ [e]) := by
            rw [Publisher.recorded, hpublish]
            rfl
          simp only [all, hrecorded] at hall
          rw [ih hall, List.append_assoc, List.singleton_append]

def Fuser.State.unrecorded (state : Fuser.State (σ × List (Estimate α))) : Fuser.State σ :=
  ⟨state.tally, state.published.1⟩

def Localizer.unrecorded (l : Localizer (σ × List (Estimate α)) α) : Localizer σ α :=
  ⟨l.registry, l.reference, l.camera, l.fuser.unrecorded⟩

def Setup.recording (s : Setup σ α) : Setup (σ × List (Estimate α)) α :=
  s.withPublisher s.publish.recorded

namespace Fuser

variable [Scalar α] [Numerics α] (c : FuserConfig α) (s : Services α) (publish : Publisher σ α)

theorem process_recorded (state : State (σ × List (Estimate α))) (d : Detection α) :
    (process c s publish state.unrecorded d).result =
        (process c s publish.recorded state d).result ∧
      (process c s publish state.unrecorded d).state =
        (process c s publish.recorded state d).state.unrecorded := by
  unfold process settle
  cases (Judgement.of c s d).verdict with
  | error f => exact ⟨rfl, rfl⟩
  | ok v =>
      cases v with
      | rejected why => exact ⟨rfl, rfl⟩
      | accepted e =>
          simp only [Publisher.recorded, State.unrecorded]
          cases publish state.published.1 e <;> exact ⟨rfl, rfl⟩

theorem returned_recorded (state : State (σ × List (Estimate α))) (ds : List (Detection α)) :
    returned c s publish state.unrecorded ds = returned c s publish.recorded state ds := by
  induction ds generalizing state with
  | nil => rfl
  | cons d ds ih =>
      obtain ⟨hresult, hstate⟩ := process_recorded c s publish state d
      simp only [returned, hresult, hstate, ih]

theorem processAll_recorded (state : State (σ × List (Estimate α))) (ds : List (Detection α)) :
    (processAll c s publish state.unrecorded ds).state =
      (processAll c s publish.recorded state ds).state.unrecorded := by
  induction ds generalizing state with
  | nil => rfl
  | cons d ds ih =>
      obtain ⟨hresult, hstate⟩ := process_recorded c s publish state d
      simp only [processAll, hresult]
      cases (process c s publish.recorded state d).result with
      | error f => exact hstate
      | ok o =>
          simp only [hstate]
          exact ih _

end Fuser

/-! ## Uses -/

def Setup.withFrames (s : Setup σ α) (frames : String → String → FrameReply α) : Setup σ α :=
  { s with frames }

namespace Session

/-- A single detection or a batch is judged with services of its own, a call of the localizer with
the map and the reference pose that the localizer holds. -/
inductive Use (α : Type) where
  | process (given : Services α) (d : Detection α)
  | batch (given : Services α) (ds : List (Detection α))
  | call (frames : String → String → FrameReply α) (c : Localizer.Call α)

def Use.services (s : Setup σ α) (l : Localizer σ α) : Use α → Services α
  | .process given _ => given
  | .batch given _ => given
  | .call frames _ => l.services (s.withFrames frames)

variable [Scalar α] [Numerics α]

/-- The localizer after a use of its fuser, whether or not the use returns. -/
def after (s : Setup σ α) (l : Localizer σ α) : Use α → Localizer σ α
  | .process given d =>
    { l with fuser := (Fuser.process s.fuser given s.publish l.fuser d).state }
  | .batch given ds =>
    { l with fuser := (Fuser.processBatch s.fuser given s.publish l.fuser ds).state }
  | .call frames c => Localizer.after (s.withFrames frames) l c

def afterAll (s : Setup σ α) (l : Localizer σ α) (us : List (Use α)) : Localizer σ α :=
  us.foldl (after s) l

/-- The detections that are handed to the fuser. -/
def Use.detections (s : Setup σ α) (l : Localizer σ α) : Use α → List (Detection α)
  | .process _ d => [d]
  | .batch _ ds => ds
  | .call _ (.detections _ ds _) => ds
  | .call _ (.frame f) => ((Localizer.detections s l f).1.toOption.bind id).getD []
  | .call _ _ => []

/-- The outcomes that the fuser returns. -/
def Use.outcomes (s : Setup σ α) (l : Localizer σ α) (u : Use α) : List (Outcome α) :=
  Fuser.returned s.fuser (u.services s l) s.publish l.fuser (u.detections s l)

/-- All outcomes of a session, in order. -/
def history (s : Setup σ α) (l : Localizer σ α) : List (Use α) → List (Outcome α)
  | [] => []
  | u :: us => u.outcomes s l ++ history s (after s l u) us

/-- All estimates that are published in a session, in order. -/
def publishedBy (s : Setup σ α) (published : σ) (us : List (Use α)) : List (Estimate α) :=
  (afterAll s.recording (.new (published, [])) us).fuser.published.2

omit [Numerics α] in
theorem detections_withFrames (s : Setup σ α) (l : Localizer σ α)
    (frames : String → String → FrameReply α) (f : MarkerFrame) :
    Localizer.detections (s.withFrames frames) l f = Localizer.detections s l f := by
  have hmarkers : Localizer.SameMarkers s (s.withFrames frames) := ⟨rfl, rfl, rfl⟩
  exact Localizer.detections_congr hmarkers rfl f

theorem fuser_after (s : Setup σ α) (l : Localizer σ α) (u : Use α) :
    (after s l u).fuser =
      (Fuser.processAll s.fuser (u.services s l) s.publish l.fuser (u.detections s l)).state := by
  cases u with
  | process given d =>
      simp only [after, Use.detections, Use.services, Fuser.processAll]
      cases (Fuser.process s.fuser given s.publish l.fuser d).result <;> rfl
  | batch given ds => rfl
  | call frames c =>
      cases c with
      | landmarks given =>
          simp only [after, Localizer.after, Localizer.setLandmarks]
          cases Registry.collect given <;> rfl
      | reference r => rfl
      | camera c => rfl
      | detections stamp ds detected => rfl
      | frame f =>
          simp only [after, Localizer.after, Use.detections, Localizer.processFrame,
            detections_withFrames]
          split
          next fault log hdetections =>
            rw [hdetections]
            rfl
          next log hdetections =>
            rw [hdetections]
            rfl
          next ds log hdetections =>
            rw [hdetections]
            rfl

theorem after_settled {s : Setup σ α} (hpublish : s.publish.NeverRefuses) (l : Localizer σ α)
    (u : Use α) : Fuser.Settled s.publish (u.outcomes s l) none l.fuser (after s l u).fuser := by
  have hsettled := Fuser.processAll_settled s.fuser (u.services s l) s.publish l.fuser
    (u.detections s l)
  rw [Fuser.refused_eq_none hpublish, ← fuser_after] at hsettled
  exact hsettled

/-- A session is settled by its history. -/
theorem history_settled {s : Setup σ α} (hpublish : s.publish.NeverRefuses) (l : Localizer σ α)
    (us : List (Use α)) :
    Fuser.Settled s.publish (history s l us) none l.fuser (afterAll s l us).fuser := by
  induction us generalizing l with
  | nil => exact Fuser.settled_nil s.publish l.fuser
  | cons u us ih => exact (after_settled hpublish l u).append (ih (after s l u))

/-! ## Sessions with a record -/

omit [Numerics α] in
theorem detections_recorded (s : Setup σ α) (l : Localizer (σ × List (Estimate α)) α)
    (f : MarkerFrame) :
    Localizer.detections s.recording l f = Localizer.detections s l.unrecorded f := by
  have hmarkers : Localizer.SameMarkers s s.recording := ⟨rfl, rfl, rfl⟩
  exact Localizer.detections_congr hmarkers rfl f

theorem outcomes_recorded (s : Setup σ α) (l : Localizer (σ × List (Estimate α)) α)
    (u : Use α) : u.outcomes s l.unrecorded = u.outcomes s.recording l := by
  have hservices : u.services s l.unrecorded = u.services s.recording l := by
    cases u <;> rfl
  have hdetections : u.detections s l.unrecorded = u.detections s.recording l := by
    cases u with
    | process given d => rfl
    | batch given ds => rfl
    | call frames c =>
        cases c with
        | frame f => simp only [Use.detections, detections_recorded]
        | _ => rfl
  unfold Use.outcomes
  rw [hservices, hdetections]
  exact Fuser.returned_recorded s.fuser (u.services s.recording l) s.publish l.fuser
    (u.detections s.recording l)

theorem cycle_recorded (s : Setup σ α) (l : Localizer (σ × List (Estimate α)) α)
    (stamp : Value) (ds : List (Detection α)) (detected : Option Value) :
    (Localizer.process s l.unrecorded stamp ds detected).state =
      (Localizer.process s.recording l stamp ds detected).state.unrecorded := by
  have hfuser := Fuser.processAll_recorded s.fuser (l.services s.recording) s.publish l.fuser ds
  exact congrArg (Localizer.mk l.registry l.reference l.camera) hfuser

/-- The record changes nothing else. -/
theorem after_recorded (s : Setup σ α) (l : Localizer (σ × List (Estimate α)) α) (u : Use α) :
    after s l.unrecorded u = (after s.recording l u).unrecorded := by
  cases u with
  | process given d =>
      obtain ⟨_, hfuser⟩ := Fuser.process_recorded s.fuser given s.publish l.fuser d
      exact congrArg (Localizer.mk l.registry l.reference l.camera) hfuser
  | batch given ds =>
      have hfuser := Fuser.processAll_recorded s.fuser given s.publish l.fuser ds
      exact congrArg (Localizer.mk l.registry l.reference l.camera) hfuser
  | call frames c =>
      cases c with
      | landmarks given =>
          simp only [after, Localizer.after, Localizer.setLandmarks]
          cases Registry.collect given <;> rfl
      | reference r => rfl
      | camera c => rfl
      | detections stamp ds detected =>
          exact cycle_recorded (s.withFrames frames) l stamp ds detected
      | frame f =>
          have hframes : s.recording.withFrames frames = (s.withFrames frames).recording := rfl
          simp only [after, Localizer.after, Localizer.processFrame, hframes, detections_recorded]
          split
          next => rfl
          next => rfl
          next ds _ _ =>
            exact cycle_recorded (s.withFrames frames) l f.stamp ds
              (some (.int f.markers.length))

theorem history_recorded (s : Setup σ α) (l : Localizer (σ × List (Estimate α)) α)
    (us : List (Use α)) : history s l.unrecorded us = history s.recording l us := by
  induction us generalizing l with
  | nil => rfl
  | cons u us ih => simp only [history, outcomes_recorded, after_recorded, ih]

theorem afterAll_recorded (s : Setup σ α) (l : Localizer (σ × List (Estimate α)) α)
    (us : List (Use α)) :
    afterAll s l.unrecorded us = (afterAll s.recording l us).unrecorded := by
  induction us generalizing l with
  | nil => rfl
  | cons u us ih =>
      calc
        afterAll s l.unrecorded (u :: us) = afterAll s (after s l.unrecorded u) us := rfl
        _ = afterAll s (after s.recording l u).unrecorded us := by rw [after_recorded]
        _ = (afterAll s.recording l (u :: us)).unrecorded := ih (after s.recording l u)

theorem publishedBy_eq {s : Setup σ α} (hpublish : s.publish.NeverRefuses) (published : σ)
    (us : List (Use α)) :
    publishedBy s published us = Fuser.estimates (history s (.new published) us) := by
  let l : Localizer (σ × List (Estimate α)) α := .new (published, [])
  have hsettled := history_settled (s := s.recording) hpublish.recorded l us
  have hrecord := Publisher.record_all hsettled.published_eq
  calc
    publishedBy s published us = (afterAll s.recording l us).fuser.published.2 := rfl
    _ = [] ++ Fuser.estimates (history s.recording l us) := hrecord
    _ = Fuser.estimates (history s.recording l us) := List.nil_append _
    _ = Fuser.estimates (history s l.unrecorded us) := by rw [history_recorded]

/-! ## What is returned -/

/-- What the next use of a fuser returns in terms of its outcomes, and a batch beside a cycle. -/
structure Returns (s : Setup σ α) (l : Localizer σ α) : Prop where
  of_process : ∀ given d o,
    (Fuser.process s.fuser given s.publish l.fuser d).result = .ok o ↔
      (Use.process given d).outcomes s l = [o]
  of_batch : ∀ given ds n,
    (Fuser.processBatch s.fuser given s.publish l.fuser ds).result = .ok n →
      ((Use.batch given ds).outcomes s l).length = ds.length ∧
      Fuser.countAccepted ((Use.batch given ds).outcomes s l) = n
  of_cycle : ∀ frames stamp ds detected r,
    (Localizer.process (s.withFrames frames) l stamp ds detected).result = .ok r →
      (Use.call frames (.detections stamp ds detected)).outcomes s l = r.outcomes ∧
      r.outcomes.length = ds.length ∧ Fuser.countAccepted r.outcomes = r.accepted
  batch_cycle : ∀ frames ds stamp t, stamp.toFloat = .ok t →
    (Fuser.processBatch s.fuser (l.services (s.withFrames frames)) s.publish l.fuser ds).result =
      (Localizer.process (s.withFrames frames) l stamp ds none).result.map (·.accepted)
  batch_after : ∀ frames ds stamp detected,
    after s l (.batch (l.services (s.withFrames frames)) ds) =
      after s l (.call frames (.detections stamp ds detected))

theorem returns (s : Setup σ α) (l : Localizer σ α) : Returns s l := by
  constructor
  case of_process =>
    intro given d o
    simp only [Use.outcomes, Use.detections, Use.services, Fuser.returned]
    cases (Fuser.process s.fuser given s.publish l.fuser d).result <;> simp
  case of_batch =>
    intro given ds n hreturns
    cases hall : (Fuser.processAll s.fuser given s.publish l.fuser ds).result with
    | error f =>
        simp only [Fuser.processBatch, hall] at hreturns
        cases hreturns
    | ok os =>
        simp only [Fuser.processBatch, hall] at hreturns
        have houtcomes : (Use.batch given ds).outcomes s l = os := (Fuser.returned_of_ok hall).1
        rw [houtcomes]
        exact ⟨Fuser.length_of_processAll hall, Except.ok.inj hreturns⟩
  case of_cycle =>
    intro frames stamp ds detected r hreturns
    obtain ⟨os, hall, hreport⟩ := Localizer.process_returns hreturns
    obtain ⟨n, t, _, _, rfl⟩ := Localizer.reportOf_ok_iff.mp hreport
    exact ⟨(Fuser.returned_of_ok hall).1, Fuser.length_of_processAll hall, rfl⟩
  case batch_cycle =>
    intro frames ds stamp t hstamp
    simp only [Fuser.processBatch, Localizer.process, Option.getD_none, Setup.withFrames]
    cases (Fuser.processAll s.fuser _ s.publish l.fuser ds).result with
    | error f => rfl
    | ok os =>
        have hreport : Localizer.reportOf s.name stamp (.int ds.length) os =
            .ok ⟨Scalar.ofFloat t, ds.length, Fuser.countAccepted os, os,
              Status.ofCounts s.name ds.length (Fuser.countAccepted os)⟩ :=
          Localizer.reportOf_ok_iff.mpr ⟨ds.length, t, rfl, hstamp, rfl⟩
        change Except.ok (Fuser.countAccepted os) =
          (Localizer.reportOf s.name stamp (.int ds.length) os).map (·.accepted)
        rw [hreport]
        rfl
  case batch_after =>
    intro frames ds stamp detected
    rfl

/-! ## Accounts -/

def tally (s : Setup σ α) (published : σ) (us : List (Use α)) : Tally :=
  (afterAll s (.new published) us).fuser.tally

/-- The accounts of a session from a new localizer on. -/
structure Accounts (s : Setup σ α) (published : σ) (us : List (Use α)) : Prop where
  one_of_two : ∀ o ∈ history s (.new published) us,
    (∃ e, o.estimate? = some e ∧ o.reason? = none) ∨
      (∃ r, o.estimate? = none ∧ o.reason? = some r)
  accepted_eq : (tally s published us).accepted =
    Fuser.countAccepted (history s (.new published) us)
  published_eq : publishedBy s published us = Fuser.estimates (history s (.new published) us)
  published_length : (publishedBy s published us).length = (tally s published us).accepted
  count_eq : ∀ r, (tally s published us).count r =
    Fuser.countRejected r (history s (.new published) us)
  total_eq : (tally s published us).total = (history s (.new published) us).length
  accepted_mono : ∀ more,
    (tally s published us).accepted ≤ (tally s published (us ++ more)).accepted
  count_mono : ∀ more r,
    (tally s published us).count r ≤ (tally s published (us ++ more)).count r
  returns : Returns s (afterAll s (.new published) us)
  batch_published : ∀ frames ds stamp detected,
    publishedBy s published
        (us ++ [.batch ((afterAll s (.new published) us).services (s.withFrames frames)) ds]) =
      publishedBy s published (us ++ [.call frames (.detections stamp ds detected)])

theorem adds_history {s : Setup σ α} (hpublish : s.publish.NeverRefuses) (l : Localizer σ α)
    (us : List (Use α)) :
    Fuser.Adds (history s l us) l.fuser.tally (afterAll s l us).fuser.tally := by
  have htally : (afterAll s l us).fuser.tally =
      (history s l us).foldl Fuser.countOutcome l.fuser.tally :=
    (history_settled hpublish l us).tally_eq
  rw [htally]
  exact Fuser.adds_foldl (history s l us) l.fuser.tally

theorem adds_more {s : Setup σ α} (hpublish : s.publish.NeverRefuses) (published : σ)
    (us more : List (Use α)) :
    Fuser.Adds (history s (afterAll s (.new published) us) more) (tally s published us)
      (tally s published (us ++ more)) := by
  unfold tally afterAll
  rw [List.foldl_append]
  exact adds_history hpublish (afterAll s (.new published) us) more

theorem tally_history {s : Setup σ α} (hpublish : s.publish.NeverRefuses) (published : σ)
    (us : List (Use α)) :
    (tally s published us).accepted = Fuser.countAccepted (history s (.new published) us) ∧
      (∀ r, (tally s published us).count r =
        Fuser.countRejected r (history s (.new published) us)) ∧
      (tally s published us).total = (history s (.new published) us).length := by
  have hadds : Fuser.Adds (history s (.new published) us) Tally.empty (tally s published us) :=
    adds_history hpublish (.new published) us
  refine ⟨hadds.accepted_eq.trans (Nat.zero_add _), ?_, hadds.total_eq.trans (Nat.zero_add _)⟩
  intro r
  have hzero : Tally.empty.count r = 0 := by cases r <;> rfl
  rw [hadds.count_eq, hzero, Nat.zero_add]

/-- A batch with the services of the localizer publishes what a cycle on its detections does. -/
theorem batch_publishedBy (s : Setup σ α) (published : σ) (us : List (Use α))
    (frames : String → String → FrameReply α) (ds : List (Detection α)) (stamp : Value)
    (detected : Option Value) :
    publishedBy s published
        (us ++ [.batch ((afterAll s (.new published) us).services (s.withFrames frames)) ds]) =
      publishedBy s published (us ++ [.call frames (.detections stamp ds detected)]) := by
  let l : Localizer (σ × List (Estimate α)) α := .new (published, [])
  -- the services are those of the session without a record, in which the use is given
  have hfinal : afterAll s (.new published) us = (afterAll s.recording l us).unrecorded :=
    afterAll_recorded s l us
  have hservices : (afterAll s (.new published) us).services (s.withFrames frames) =
      (afterAll s.recording l us).services (s.recording.withFrames frames) := by
    rw [hfinal]
    rfl
  have hbatch := (returns s.recording (afterAll s.recording l us)).batch_after frames ds stamp
    detected
  have hlast : ∀ u, publishedBy s published (us ++ [u]) =
      (after s.recording (afterAll s.recording l us) u).fuser.published.2 := by
    intro u
    unfold publishedBy afterAll
    rw [List.foldl_append]
    rfl
  rw [hlast, hlast, hservices, hbatch]

/-- With a publisher that never refuses, every session keeps its accounts. -/
theorem accounts (s : Setup σ α) (hpublish : s.publish.NeverRefuses) (published : σ)
    (us : List (Use α)) : Accounts s published us := by
  obtain ⟨haccepted, hcount, htotal⟩ := tally_history hpublish published us
  have hpublished := publishedBy_eq hpublish published us
  constructor
  case one_of_two => exact fun o _ => o.estimate_or_reason
  case accepted_eq => exact haccepted
  case published_eq => exact hpublished
  case published_length => rw [hpublished, Fuser.length_estimates, haccepted]
  case count_eq => exact hcount
  case total_eq => exact htotal
  case accepted_mono =>
    intro more
    rw [(adds_more hpublish published us more).accepted_eq]
    exact Nat.le_add_right _ _
  case count_mono =>
    intro more r
    rw [(adds_more hpublish published us more).count_eq]
    exact Nat.le_add_right _ _
  case returns => exact returns s (afterAll s (.new published) us)
  case batch_published =>
    intro frames ds stamp detected
    exact batch_publishedBy s published us frames ds stamp detected

/-- One detection, a batch with an id that is not listed, and a cycle while no frame is known. -/
def originUses : List (Use Float) :=
  [.call OriginScene.frames (.landmarks [.ok OriginScene.landmark]),
    .call OriginScene.frames (.reference OriginScene.reference),
    .process OriginScene.services OriginScene.detection,
    .batch OriginScene.services
      [{ OriginScene.detection with id := "7" }, OriginScene.detection],
    .call (fun _ _ => .answer (.missing "")) (.detections (.float 0) [OriginScene.detection] none)]

open scoped OriginScene in
theorem accounts_at_origin :
    (publishedBy OriginScene.setup 0 originUses).length = 2 ∧
      Fuser.countRejected .notWhitelisted (history OriginScene.setup (.new 0) originUses) = 1 ∧
      (history OriginScene.setup (.new 0) originUses).length = 4 := by
  have haccounts := accounts OriginScene.setup OriginScene.counter_neverRefuses 0 originUses
  have htally : tally OriginScene.setup 0 originUses =
      { accepted := 2, notWhitelisted := 1, transformUnavailable := 1 } := by
    decide +kernel
  rw [haccounts.published_length, ← haccounts.count_eq, ← haccounts.total_eq, htally]
  exact ⟨rfl, rfl, rfl⟩

end Session
end Fiducial
