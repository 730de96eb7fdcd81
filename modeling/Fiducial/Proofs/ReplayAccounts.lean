import Fiducial.Proofs.FuserLedger
import Fiducial.Proofs.ReplayEnding
import Fiducial.Proofs.SnapshotSimulation

/-!
# The accounts of a replay

Three counts are kept during a replay.  The fuser counts what it decides, the pose log counts the
records that it writes, and the replay adds up the reports of its cycles.  They agree as long as
every estimate has a record.  An estimate whose rotation is left-handed has none, but by the time
the log refuses it the fuser has counted it.  The event is then skipped without a report, although
its detections up to that point were counted and the records of their estimates written.
-/

namespace Fiducial

/-! ## What a pose log writes and refuses -/

namespace PoseLog

variable {α : Type} [Scalar α] [Numerics α]

theorem written_append (now : Float) (l : PoseLog) (line : String) :
    (l.append now line).written = l.written + 1 := by
  unfold append
  dsimp only
  split <;> rfl

theorem written_all {now : Float} {l l' : PoseLog} {es : List (Estimate α)}
    (hall : Publisher.all (publish now) l es = .ok l') : l'.written = l.written + es.length := by
  induction es generalizing l with
  | nil =>
      cases hall
      rfl
  | cons e es ih =>
      cases hline : line e with
      | error f =>
          have hpublish : publish now l e = .error f := by
            rw [publish, hline]
            rfl
          simp [Publisher.all, hpublish] at hall
      | ok text =>
          have hpublish : publish now l e = .ok (l.append now text) := by
            rw [publish, hline]
            rfl
          simp only [Publisher.all, hpublish] at hall
          rw [ih hall, written_append, List.length_cons]
          omega

end PoseLog

/-- The decomposition that gives the nearest rotation does not fail on finite matrices. -/
def Numerics.DecomposesFinite [Numerics Float] : Prop :=
  ∀ m : Mat3 Float, m.isFinite = true → ∃ r, Numerics.polar? m = some r

theorem Rotation.polarFactor_of_finite {m : Mat3 Float} (hfinite : m.isFinite = true) :
    polarFactor? m = some (polarFactor m) := by
  have hrow : ∀ v : Vec3 Float, v.isFinite = true →
      (Scalar.le v.x v.x && Scalar.le v.y v.y && Scalar.le v.z v.z) = true := by
    intro v hv
    simp only [Vec3.isFinite, Bool.and_eq_true] at hv ⊢
    exact ⟨⟨decide_eq_true (Double.le_self hv.1.1), decide_eq_true (Double.le_self hv.1.2)⟩,
      decide_eq_true (Double.le_self hv.2)⟩
  simp only [Mat3.isFinite, Bool.and_eq_true] at hfinite
  simp [polarFactor?, Mat3.rows, hrow _ hfinite.1.1, hrow _ hfinite.1.2, hrow _ hfinite.2]

theorem Numerics.decomposesFinite_plain (power : Float → Nat → Float) :
    @DecomposesFinite (.plain power) :=
  fun _ hfinite => ⟨_, Rotation.polarFactor_of_finite hfinite⟩

section Refusals

variable [Numerics Float] (hdecomposes : Numerics.DecomposesFinite)

include hdecomposes

/-- A finite matrix has a nearest rotation unless its determinant is not positive. -/
theorem Rotation.det_of_nearest_error {m : Mat3 Float} (hfinite : m.isFinite = true) {f : Fault}
    (hfails : nearest m = .error f) : Numerics.determinant m ≤ 0 := by
  obtain ⟨r, hr⟩ := hdecomposes m hfinite
  unfold nearest at hfails
  rw [hr] at hfails
  split at hfails
  next hdet => exact of_decide_eq_true hdet
  next =>
    split at hfails
    · cases hfails
    · cases hfails

/-- A pose log refuses a finite estimate only if its rotation is not right-handed. -/
theorem PoseLog.det_of_refused {now : Float} {l : PoseLog} {e : Estimate Float} {f : Fault}
    (hfinite : e.pose.rotation.isFinite = true) (hrefuses : publish now l e = .error f) :
    Numerics.determinant e.pose.rotation ≤ 0 := by
  cases hnearest : Rotation.nearest e.pose.rotation with
  | error g => exact Rotation.det_of_nearest_error hdecomposes hfinite hnearest
  | ok m =>
      simp only [publish, line, record, Rotation.toQuaternion, Rotation.toHeading, hnearest]
        at hrefuses
      cases hrefuses

end Refusals

namespace Replay

/-! ## Cycles that are broken off -/

/-- A cycle that an estimate broke off by being refused, with the outcomes before it. -/
structure Break (α : Type) where
  outcomes : List (Outcome α)
  estimate : Estimate α

section Counts

variable {α : Type}

def acceptedIn (bs : List (Break α)) : Nat := (bs.map (Fuser.countAccepted ·.outcomes)).sum

/-- The detections that have no part in a report: those with an outcome and the one refused. -/
def detectedIn (bs : List (Break α)) : Nat := (bs.map (·.outcomes.length + 1)).sum

theorem acceptedIn_append (bs bs' : List (Break α)) :
    acceptedIn (bs ++ bs') = acceptedIn bs + acceptedIn bs' := by
  simp [acceptedIn]

theorem detectedIn_append (bs bs' : List (Break α)) :
    detectedIn (bs ++ bs') = detectedIn bs + detectedIn bs' := by
  simp [detectedIn]

/-- How the counts of a replay differ after some cycles were broken off. -/
structure Balanced (s : State PoseLog α) (bs : List (Break α)) : Prop where
  accepted_eq : s.localizer.fuser.tally.accepted =
    s.localizer.fuser.published.written + bs.length
  written_eq : s.localizer.fuser.published.written = s.accepted + acceptedIn bs
  total_eq : (s.localizer.fuser.tally.total : Int) = s.detections + detectedIn bs

theorem Balanced.of_same {s s' : State PoseLog α} {bs : List (Break α)} (hs : Balanced s bs)
    (hfuser : s'.localizer.fuser = s.localizer.fuser) (haccepted : s'.accepted = s.accepted)
    (hdetections : s'.detections = s.detections) : Balanced s' bs := by
  constructor
  case accepted_eq =>
    rw [hfuser]
    exact hs.accepted_eq
  case written_eq =>
    rw [hfuser, haccepted]
    exact hs.written_eq
  case total_eq =>
    rw [hfuser, hdetections]
    exact hs.total_eq

end Counts

section Breaks

variable {σ α : Type} [Scalar α] [Numerics α]

def breakIn (setup : Setup σ α) (l : Localizer σ α) (ds : List (Detection α)) :
    Option (Break α) :=
  (Fuser.refused setup.fuser (l.services setup) setup.publish l.fuser ds).map
    (⟨Fuser.returned setup.fuser (l.services setup) setup.publish l.fuser ds, ·⟩)

/-- How the cycle of an event is broken off, if it is one and it is. -/
def breakOf (setup : Setup σ α) (l : Localizer σ α) : Value → Option (Break α)
  | .map es =>
    if (kindOf es).toOption = some "detections" then
      (Event.detections es).toOption.bind (breakIn setup l)
    else none
  | _ => none

def breaks (setup : Setup σ α) (s : State σ α) : List Value → List (Break α)
  | [] => []
  | e :: events =>
    (breakOf setup s.localizer e).toList ++ breaks setup (step setup s e).state events

/-- Only a cycle changes the counts. -/
theorem dispatch_same (setup : Setup σ α) (s : State σ α) {kind : String}
    (es : List (Value × Value)) (hkind : kind ≠ "detections") :
    (dispatch setup s kind es).state.localizer.fuser = s.localizer.fuser ∧
      (dispatch setup s kind es).state.accepted = s.accepted ∧
      (dispatch setup s kind es).state.detections = s.detections := by
  unfold dispatch
  rw [if_neg hkind]
  split
  · unfold reference
    split <;> exact ⟨rfl, rfl, rfl⟩
  · split
    · unfold landmarks Localizer.setLandmarks
      split
      · exact ⟨rfl, rfl, rfl⟩
      · dsimp only
        split <;> exact ⟨rfl, rfl, rfl⟩
    · exact ⟨rfl, rfl, rfl⟩

end Breaks

/-! ## One cycle -/

section Cycles

variable [Numerics Float]
variable {now : Float} {setup : Setup PoseLog Float} {s : State PoseLog Float}
variable {bs : List (Break Float)} {es : List (Value × Value)} {ds : List (Detection Float)}

/-- The fuser and the log after detections whose last estimate may have been refused. -/
theorem Balanced.settled {publish : Publisher PoseLog Float} {os : List (Outcome Float)}
    {r : Option (Estimate Float)} {fuser : Fuser.State PoseLog}
    (hlog : publish = PoseLog.publish now) (hs : Balanced s bs)
    (hsettled : Fuser.Settled publish os r s.localizer.fuser fuser) :
    fuser.tally.accepted = fuser.published.written + bs.length + r.toList.length ∧
      fuser.published.written = s.accepted + acceptedIn bs + Fuser.countAccepted os ∧
      (fuser.tally.total : Int) =
        s.detections + detectedIn bs + os.length + r.toList.length := by
  subst hlog
  have hwritten : fuser.published.written =
      s.localizer.fuser.published.written + Fuser.countAccepted os := by
    rw [PoseLog.written_all hsettled.published_eq, Fuser.length_estimates]
  have hadds := Fuser.adds_foldl os s.localizer.fuser.tally
  have haccepted := hadds.accepted_eq
  have htotal := hadds.total_eq
  have hbalanced := hs.accepted_eq
  have hlog := hs.written_eq
  have hdetections := hs.total_eq
  have htally := hsettled.tally_eq
  cases r with
  | none =>
      simp only [Option.toList_none, List.length_nil] at htally ⊢
      rw [htally]
      refine ⟨?_, ?_, ?_⟩ <;> omega
  | some e =>
      simp only [Option.toList_some, List.length_singleton] at htally ⊢
      rw [htally, Tally.accepted_accept, Tally.total_accept]
      refine ⟨?_, ?_, ?_⟩ <;> omega

/-- The fuser after the detections of a cycle. -/
def fuserAfter (setup : Setup PoseLog Float) (l : Localizer PoseLog Float)
    (ds : List (Detection Float)) : Fuser.State PoseLog :=
  (Fuser.processAll setup.fuser (l.services setup) setup.publish l.fuser ds).state

theorem settled_fuserAfter (setup : Setup PoseLog Float) (l : Localizer PoseLog Float)
    (ds : List (Detection Float)) :
    Fuser.Settled setup.publish
      (Fuser.returned setup.fuser (l.services setup) setup.publish l.fuser ds)
      (Fuser.refused setup.fuser (l.services setup) setup.publish l.fuser ds) l.fuser
      (fuserAfter setup l ds) :=
  Fuser.processAll_settled setup.fuser (l.services setup) setup.publish l.fuser ds

theorem cycle_of_ok (hread : Event.detections es = .ok ds) {os : List (Outcome Float)}
    (hresult : (Fuser.processAll setup.fuser (s.localizer.services setup) setup.publish
      s.localizer.fuser ds).result = .ok os) :
    (cycle setup s es).state.localizer.fuser = fuserAfter setup s.localizer ds ∧
      (cycle setup s es).state.accepted = s.accepted + Fuser.countAccepted os ∧
      (cycle setup s es).state.detections = s.detections + ds.length := by
  obtain ⟨t, hstamp⟩ := Event.stamp_of_detections hread
  obtain ⟨r, hreport, hdetected, haccepted⟩ :
      ∃ r, Localizer.reportOf setup.name ((Value.lookup "t" es).getD .null) (.int ds.length) os =
        .ok r ∧ r.detected = ds.length ∧ r.accepted = Fuser.countAccepted os :=
    ⟨_, Localizer.reportOf_ok_iff.mpr ⟨ds.length, t, rfl, hstamp, rfl⟩, rfl, rfl⟩
  have hreply : (Localizer.process setup s.localizer ((Value.lookup "t" es).getD .null) ds
      none).result = .ok r := by
    simp only [Localizer.process, hresult]
    exact hreport
  simp only [cycle, hread, hreply, State.count, hdetected, haccepted]
  exact ⟨rfl, trivial, trivial⟩

theorem cycle_of_error (hread : Event.detections es = .ok ds) {f : Fault}
    (hresult : (Fuser.processAll setup.fuser (s.localizer.services setup) setup.publish
      s.localizer.fuser ds).result = .error f) :
    (cycle setup s es).outcome = .error f ∧
      (cycle setup s es).state.localizer.fuser = fuserAfter setup s.localizer ds ∧
      (cycle setup s es).state.accepted = s.accepted ∧
      (cycle setup s es).state.detections = s.detections := by
  simp only [cycle, hread, Localizer.process, hresult]
  exact ⟨rfl, rfl, rfl, rfl⟩

/-- A cycle whose detections have all been judged is reported. -/
theorem Balanced.cycle_reported (hlog : setup.publish = PoseLog.publish now) (hs : Balanced s bs)
    (hread : Event.detections es = .ok ds) {os : List (Outcome Float)}
    (hresult : (Fuser.processAll setup.fuser (s.localizer.services setup) setup.publish
      s.localizer.fuser ds).result = .ok os) : Balanced (cycle setup s es).state bs := by
  obtain ⟨haccepted, hwritten, htotal⟩ :=
    hs.settled hlog (settled_fuserAfter setup s.localizer ds)
  obtain ⟨hreturned, hrefused⟩ := Fuser.returned_of_ok hresult
  obtain ⟨hfuser, hreported, hdetected⟩ := cycle_of_ok hread hresult
  have hlength := Fuser.length_of_processAll hresult
  rw [hrefused] at haccepted
  rw [hreturned] at hwritten
  rw [hreturned, hrefused] at htotal
  constructor
  case accepted_eq =>
    rw [hfuser]
    exact haccepted
  case written_eq =>
    rw [hfuser, hreported, hwritten]
    omega
  case total_eq =>
    rw [hfuser, hdetected, htotal, hlength]
    simp only [Option.toList_none, List.length_nil]
    omega

/-- A cycle that a refused estimate breaks off is one more of those that are not reported. -/
theorem Balanced.cycle_broken (hlog : setup.publish = PoseLog.publish now) (hs : Balanced s bs)
    (hread : Event.detections es = .ok ds) {f : Fault}
    (hresult : (Fuser.processAll setup.fuser (s.localizer.services setup) setup.publish
      s.localizer.fuser ds).result = .error f) {e : Estimate Float}
    (hrefused : Fuser.refused setup.fuser (s.localizer.services setup) setup.publish
      s.localizer.fuser ds = some e) :
    Balanced (cycle setup s es).state (bs ++ [⟨Fuser.returned setup.fuser
      (s.localizer.services setup) setup.publish s.localizer.fuser ds, e⟩]) := by
  obtain ⟨haccepted, hwritten, htotal⟩ :=
    hs.settled hlog (settled_fuserAfter setup s.localizer ds)
  obtain ⟨-, hfuser, hreported, hdetected⟩ := cycle_of_error hread hresult
  rw [hrefused] at haccepted htotal
  constructor
  case accepted_eq =>
    rw [hfuser, haccepted, List.length_append]
    rfl
  case written_eq =>
    rw [hfuser, hreported, hwritten, acceptedIn_append]
    simp only [acceptedIn, List.map_cons, List.map_nil, List.sum_singleton]
    omega
  case total_eq =>
    rw [hfuser, hdetected, htotal, detectedIn_append]
    simp only [detectedIn, List.map_cons, List.map_nil, List.sum_singleton,
      Option.toList_some, List.length_singleton]
    omega

theorem cycle_balanced (hlog : setup.publish = PoseLog.publish now)
    (hframes : GivesTransforms setup.frames) (hs : Balanced s bs)
    (hread : Event.detections es = .ok ds)
    (hskipped : ∀ f, (cycle setup s es).outcome = .error f → isSkipped f = true) :
    Balanced (cycle setup s es).state (bs ++ (breakIn setup s.localizer ds).toList) := by
  cases hresult : (Fuser.processAll setup.fuser (s.localizer.services setup) setup.publish
      s.localizer.fuser ds).result with
  | ok os =>
      have hnone : breakIn setup s.localizer ds = none := by
        rw [breakIn, (Fuser.returned_of_ok hresult).2]
        rfl
      rw [hnone, Option.toList_none, List.append_nil]
      exact hs.cycle_reported hlog hread hresult
  | error f =>
      rcases Fuser.processAll_fails hresult with ⟨_, d, _, hverdict⟩ | ⟨e, hrefused, _⟩
      · -- a verdict fails only by an overflow, and an overflow is not skipped
        obtain ⟨rfl, _⟩ := Fuser.overflows_of_givesTransforms hframes hverdict
        have hcontra := hskipped .overflow (cycle_of_error hread hresult).1
        cases hcontra
      · rw [breakIn, hrefused, Option.map_some, Option.toList_some]
        exact hs.cycle_broken hlog hread hresult hrefused

/-! ## Whole replays -/

theorem step_balanced {e : Value} (hlog : setup.publish = PoseLog.publish now)
    (hframes : GivesTransforms setup.frames) (hs : Balanced s bs)
    (hreturns : (step setup s e).outcome = .ok ()) :
    Balanced (step setup s e).state (bs ++ (breakOf setup s.localizer e).toList) := by
  obtain ⟨es, kind, rfl, hkind⟩ := kind_of_step hreturns
  have hnumbered : Balanced (s.numbered (s.events + 1)) bs := hs.of_same rfl rfl rfl
  rw [step_of_kind s hkind] at hreturns ⊢
  rw [skipping_state]
  have hskipped := (skipping_ok_iff _ _).mp hreturns
  by_cases hcycle : kind = "detections"
  · subst hcycle
    have hdispatch : dispatch setup (s.numbered (s.events + 1)) "detections" es =
        cycle setup (s.numbered (s.events + 1)) es := by
      simp [dispatch]
    rw [hdispatch] at hskipped ⊢
    cases hread : (Event.detections es : Except Fault (List (Detection Float))) with
    | error f =>
        have hnone : breakOf setup s.localizer (.map es) = none := by
          simp [breakOf, hread, Except.toOption]
        have hsame : (cycle setup (s.numbered (s.events + 1)) es).state =
            s.numbered (s.events + 1) := by
          simp only [cycle, hread]
        rw [hnone, hsame, Option.toList_none, List.append_nil]
        exact hnumbered
    | ok ds =>
        have hbreak : breakOf setup s.localizer (.map es) = breakIn setup s.localizer ds := by
          simp [breakOf, hkind, hread, Except.toOption]
        rw [hbreak]
        exact cycle_balanced hlog hframes hnumbered hread hskipped
  · have hnone : breakOf setup s.localizer (.map es) = none := by
      simp [breakOf, hkind, hcycle, Except.toOption]
    obtain ⟨hfuser, haccepted, hdetections⟩ :=
      dispatch_same setup (s.numbered (s.events + 1)) es hcycle
    rw [hnone, Option.toList_none, List.append_nil]
    exact hnumbered.of_same hfuser haccepted hdetections

theorem steps_balanced (hlog : setup.publish = PoseLog.publish now)
    (hframes : GivesTransforms setup.frames) {events : List Value} (hs : Balanced s bs)
    (hreturns : (steps setup s events).outcome = .ok ()) :
    Balanced (steps setup s events).state (bs ++ breaks setup s events) := by
  -- `bs` are the cycles broken off so far, so it grows along the events with the state
  induction events generalizing s bs with
  | nil =>
      rw [breaks, List.append_nil]
      exact hs
  | cons e events ih =>
      obtain ⟨hstep, hrest, hstate⟩ := steps_cons_ok hreturns
      rw [hstate, breaks, ← List.append_assoc]
      exact ih (step_balanced hlog hframes hs hstep) hrest

section Refused

variable (hdecomposes : Numerics.DecomposesFinite)

include hdecomposes

theorem det_of_breakIn {l : Localizer PoseLog Float} {b : Break Float}
    (hlog : setup.publish = PoseLog.publish now) (hbreak : breakIn setup l ds = some b) :
    Numerics.determinant b.estimate.pose.rotation ≤ 0 := by
  obtain ⟨e, hrefused, rfl⟩ := Option.map_eq_some_iff.mp hbreak
  cases hresult : (Fuser.processAll setup.fuser (l.services setup) setup.publish l.fuser
      ds).result with
  | ok os =>
      have hnone := (Fuser.returned_of_ok hresult).2
      rw [hrefused] at hnone
      cases hnone
  | error f =>
      rcases Fuser.processAll_fails hresult with ⟨hnone, _⟩ | ⟨e', hsome, hrefuses, d, _, hverdict⟩
      · rw [hrefused] at hnone
        cases hnone
      · cases hrefused.symm.trans hsome
        obtain ⟨_, t, p, hpassed, hpose⟩ := Judgement.passed_of_accepted hverdict
        have hfinite : e.pose.isFinite = true := hpose ▸ hpassed.poseFinite
        simp only [Transform.isFinite, Bool.and_eq_true] at hfinite
        rw [hlog] at hrefuses
        exact PoseLog.det_of_refused hdecomposes hfinite.1.1.1 hrefuses

theorem det_of_breakOf {l : Localizer PoseLog Float} {e : Value} {b : Break Float}
    (hlog : setup.publish = PoseLog.publish now) (hbreak : breakOf setup l e = some b) :
    Numerics.determinant b.estimate.pose.rotation ≤ 0 := by
  cases e with
  | map es =>
      simp only [breakOf] at hbreak
      split at hbreak
      · obtain ⟨ds, _, hin⟩ := Option.bind_eq_some_iff.mp hbreak
        exact det_of_breakIn hdecomposes hlog hin
      · cases hbreak
  | _ => cases hbreak

theorem det_of_mem_breaks (hlog : setup.publish = PoseLog.publish now) {events : List Value}
    {b : Break Float} (hmem : b ∈ breaks setup s events) :
    Numerics.determinant b.estimate.pose.rotation ≤ 0 := by
  induction events generalizing s with
  | nil => cases hmem
  | cons e events ih =>
      rcases List.mem_append.mp hmem with hfirst | hrest
      · exact det_of_breakOf hdecomposes hlog (Option.mem_toList.mp hfirst)
      · exact ih hrest

end Refused

/-- The counts of a replay into a pose log, given the cycles that were broken off. -/
structure Accounts (summary : Summary) (log : PoseLog) (bs : List (Break Float)) : Prop where
  accepted_eq : summary.tally.accepted = log.written + bs.length
  written_eq : log.written = summary.accepted + acceptedIn bs
  total_eq : (summary.tally.total : Int) = summary.detections + detectedIn bs
  agree_iff :
    summary.accepted = summary.tally.accepted ∧ summary.tally.accepted = log.written ∧
      summary.detections = summary.tally.total ↔ bs = []
  det_le_zero : ∀ b ∈ bs, Numerics.determinant b.estimate.pose.rotation ≤ 0

/-- In a replay that returns, the counts differ by what the cycles counted and wrote that a
left-handed estimate broke off. -/
theorem run_accounts (hlog : setup.publish = PoseLog.publish now)
    (hframes : GivesTransforms setup.frames) (hdecomposes : Numerics.DecomposesFinite)
    (flushEvery : Int) (interval begun : Float) (map : List (Landmark Float)) (events : List Value)
    (ending : Option Fault)
    (hreturns :
      (run setup (PoseLog.new flushEvery interval begun) map events ending).outcome = .ok ()) :
    Accounts (run setup (PoseLog.new flushEvery interval begun) map events ending).state.summary
      (run setup (PoseLog.new flushEvery interval begun) map events
        ending).state.localizer.fuser.published
      (breaks setup (loaded (PoseLog.new flushEvery interval begun) map) events) := by
  obtain ⟨rfl, r, hcollect⟩ := run_ok hreturns
  obtain ⟨houtcome, hstate⟩ :=
    run_of_collect setup (PoseLog.new flushEvery interval begun) hcollect events
  rw [houtcome] at hreturns
  have hloaded : Balanced (loaded (PoseLog.new flushEvery interval begun) map) [] := by
    constructor <;> simp only [loaded_fuser] <;> rfl
  have hbalanced := steps_balanced hlog hframes hloaded hreturns
  rw [← hstate, List.nil_append] at hbalanced
  obtain ⟨haccepted, hwritten, htotal⟩ := hbalanced
  constructor
  case accepted_eq => exact haccepted
  case written_eq => exact hwritten
  case total_eq => exact htotal
  case agree_iff =>
    constructor
    · rintro ⟨_, hagree, _⟩
      have hlength := hagree.symm.trans haccepted
      exact List.eq_nil_of_length_eq_zero (Nat.left_eq_add.mp hlength)
    · intro hnil
      rw [hnil] at haccepted hwritten htotal
      simp only [State.summary]
      simp only [acceptedIn, detectedIn, List.map_nil, List.sum_nil, List.length_nil]
        at haccepted hwritten htotal
      omega
  case det_le_zero => exact fun b hmem => det_of_mem_breaks hdecomposes hlog hmem

end Cycles

/-! ## A landmark that mirrors the map -/

def mirror : Transform Float :=
  Transform.rigid ⟨⟨1, 0, 0⟩, ⟨0, 1, 0⟩, ⟨0, 0, -1⟩⟩ Vec3.zero

def mirrorMap : List (Landmark Float) := [OriginScene.landmark, ⟨"6", mirror⟩]

def mirrorSetup : Setup PoseLog Float :=
  { OriginScene.loggingSetup with
    fuser := { OriginScene.config 1 with gates := ⟨["5", "6"], 10, 1, 1⟩ } }

def mirrorEvents : List Value :=
  [.map OriginScene.referenceEvent, .map (OriginScene.detectionsEvent ["5", "6"])]

open scoped OriginScene

def mirrorRun : Progress PoseLog Float :=
  run mirrorSetup (PoseLog.new 1 0 0) mirrorMap mirrorEvents none

/-- The fuser accepts both landmarks, the log holds a record of the first only, and the cycle that
saw them is not reported. -/
theorem run_accounts_mirrored :
    mirrorRun.outcome = .ok () ∧
      mirrorRun.state.summary.tally.accepted = 2 ∧
      mirrorRun.state.localizer.fuser.published.written = 1 ∧
      mirrorRun.state.summary.accepted = 0 ∧
      mirrorRun.state.summary.tally.total = 2 ∧
      mirrorRun.state.summary.detections = 0 ∧
      (breaks mirrorSetup (loaded (PoseLog.new 1 0 0) mirrorMap) mirrorEvents).length = 1 := by
  have hrun : mirrorRun = run mirrorSetup (PoseLog.new 1 0 0) mirrorMap mirrorEvents none := by
    rw [mirrorRun]
  have hlog : mirrorSetup.publish = PoseLog.publish 0 := rfl
  have hreturns : mirrorRun.outcome = .ok () := Progress.returns_of_isOk (by decide +kernel)
  have hframes : GivesTransforms mirrorSetup.frames := fun _ _ => ⟨_, rfl⟩
  have haccounts := run_accounts hlog hframes (Numerics.decomposesFinite_plain _) 1 0 0 mirrorMap
    mirrorEvents none (hrun ▸ hreturns)
  rw [← hrun] at haccounts
  have htally : mirrorRun.state.summary.tally = { accepted := 2 } := by decide +kernel
  have hwritten : mirrorRun.state.localizer.fuser.published.written = 1 := by decide +kernel
  have haccepted : mirrorRun.state.summary.accepted = 0 := by decide +kernel
  have hdetections : mirrorRun.state.summary.detections = 0 := by decide +kernel
  have hbreaks := haccounts.accepted_eq
  rw [htally, hwritten] at hbreaks
  refine ⟨hreturns, ?_, hwritten, haccepted, ?_, hdetections, ?_⟩
  · rw [htally]
  · rw [htally]
    rfl
  · exact (Nat.add_left_cancel hbreaks).symm

end Replay
end Fiducial
