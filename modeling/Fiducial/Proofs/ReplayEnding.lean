import Fiducial.Config.Reader
import Fiducial.FrameGraph
import Fiducial.Proofs.ArithmeticOverflow
import Fiducial.Proofs.ConversionFaults
import Fiducial.Proofs.ReplaySteps

/-!
# How a replay ends

A replay goes through all of its events, whatever they hold, with two exceptions that its handling
of wrong content leaves out.  The type of an event is written out before the content is looked at,
so a number with too many digits in it is not skipped.  And what is skipped does not include
overflows: neither that of a whole number beyond the doubles, nor that of a cycle in which a square
or a third power is too large.
-/

namespace Fiducial
namespace Replay

/-- A publisher that refuses an estimate only with a fault for which an event is skipped. -/
def RefusesSkipped {σ α : Type} (publish : Publisher σ α) : Prop :=
  ∀ published e, SkippedUnless False (publish published e)

section Endings

variable [Numerics Float]
variable {σ : Type} (setup : Setup σ Float) (l : Localizer σ Float) (es : List (Value × Value))

inductive Ends : Fault → Prop
  | unnamed {f : Fault} (hkind : kindOf es = .error f) : Ends f
  | reference (hkind : kindOf es = .ok "reference_pose")
      (hread : (Event.reference es : Except Fault (ReferencePose Float)) = .error .tooLarge) :
      Ends .tooLarge
  | detections (hkind : kindOf es = .ok "detections")
      (hread : (Event.detections es : Except Fault (List (Detection Float))) = .error .tooLarge) :
      Ends .tooLarge
  | cycle (hkind : kindOf es = .ok "detections") {before after : List (Detection Float)}
      {d : Detection Float} (hread : Event.detections es = .ok (before ++ d :: after))
      {os : List (Outcome Float)}
      (hbefore : (Fuser.processAll setup.fuser (l.services setup) setup.publish l.fuser
        before).result = .ok os)
      (hoverflows : Fuser.Overflows setup.fuser (l.services setup) d) :
      Ends .overflow
  | landmarks (hkind : kindOf es = .ok "landmarks")
      {ls : List (Except Fault (Landmark Float))} (hread : Event.landmarks es = .ok ls)
      (hcollect : Registry.collect ls = .error .tooLarge) :
      Ends .tooLarge

end Endings

/-! ## Cycles that fail -/

section Cycles

variable [Numerics Float]
variable {σ : Type} {c : FuserConfig Float} {s : Services Float} {publish : Publisher σ Float}

/-- One detection fails with a fault that is not skipped exactly if it overflows. -/
theorem process_error_iff_overflows (hpublish : RefusesSkipped publish) (state : Fuser.State σ)
    (d : Detection Float) (f : Fault) :
    (Fuser.process c s publish state d).result = .error f ∧ isSkipped f = false ↔
      f = .overflow ∧ Fuser.Overflows c s d := by
  constructor
  · rintro ⟨hfails, hnot⟩
    rcases Fuser.settle_fails hfails with ⟨hverdict, _⟩ | ⟨e, _, hrefuses, _⟩
    · rcases (Fuser.verdict_error_iff c s d f).mp hverdict with hoverflows | ⟨shape, rfl, -⟩
      · exact hoverflows
      · cases hnot
    · rcases hpublish state.published e f hrefuses with hskipped | ⟨_, hfalse⟩
      · rw [hskipped] at hnot
        cases hnot
      · exact hfalse.elim
  · rintro ⟨rfl, hoverflows⟩
    have hverdict := (Fuser.verdict_error_iff c s d .overflow).mpr (.inl ⟨rfl, hoverflows⟩)
    exact ⟨Fuser.settle_of_verdict_error hverdict, rfl⟩

/-- A run fails with a fault that is not skipped exactly at the first detection that overflows. -/
theorem processAll_error_iff_overflows (hpublish : RefusesSkipped publish)
    (state : Fuser.State σ) (ds : List (Detection Float)) (f : Fault) :
    (Fuser.processAll c s publish state ds).result = .error f ∧ isSkipped f = false ↔
      f = .overflow ∧ ∃ before d after os, ds = before ++ d :: after ∧
        (Fuser.processAll c s publish state before).result = .ok os ∧
        Fuser.Overflows c s d := by
  rw [Fuser.processAll_error_iff_first]
  constructor
  · rintro ⟨⟨before, d, after, os, hsplit, hbefore, hfails⟩, hnot⟩
    obtain ⟨hf, hoverflows⟩ := (process_error_iff_overflows hpublish _ d f).mp ⟨hfails, hnot⟩
    exact ⟨hf, before, d, after, os, hsplit, hbefore, hoverflows⟩
  · rintro ⟨hf, before, d, after, os, hsplit, hbefore, hoverflows⟩
    obtain ⟨hfails, hnot⟩ :=
      (process_error_iff_overflows hpublish
        (Fuser.processAll c s publish state before).state d f).mpr ⟨hf, hoverflows⟩
    exact ⟨⟨before, d, after, os, hsplit, hbefore, hfails⟩, hnot⟩

end Cycles

/-! ## One event -/

section Events

variable [Numerics Float]
variable {σ : Type} {setup : Setup σ Float} {s : State σ Float} {es : List (Value × Value)}
variable {f : Fault}

omit [Numerics Float] in
theorem reportOf_of_stamp (name : String) {stamp : Value} {t : Float}
    (hstamp : stamp.toFloat = .ok t) (n : Int) (os : List (Outcome Float)) :
    ∃ r, Localizer.reportOf name stamp (.int n) os = .ok r := by
  unfold Localizer.reportOf
  rw [hstamp]
  exact ⟨_, rfl⟩

/-- Once its stamp can be read, a cycle fails as its detections do. -/
theorem process_error_iff_of_stamp {l : Localizer σ Float} {stamp : Value} {t : Float}
    (hstamp : stamp.toFloat = .ok t) (ds : List (Detection Float)) :
    (Localizer.process setup l stamp ds none).result = .error f ↔
      (Fuser.processAll setup.fuser (l.services setup) setup.publish l.fuser ds).result =
        .error f := by
  simp only [Localizer.process, Option.getD_none]
  cases (Fuser.processAll setup.fuser (l.services setup) setup.publish l.fuser ds).result with
  | error g => simp [bind, Except.bind]
  | ok os =>
      obtain ⟨r, hr⟩ := reportOf_of_stamp setup.name hstamp ds.length os
      simp [bind, Except.bind, hr]

/-! ### The ends of each type of event -/

section Kinds

variable {l : Localizer σ Float}

/-- How an event can end the replay once its type is known. -/
theorem ends_iff {kind : String} (hkind : kindOf es = .ok kind) :
    Ends setup l es f ↔
      (kind = "reference_pose" ∧ f = .tooLarge ∧
        (Event.reference es : Except Fault (ReferencePose Float)) = .error .tooLarge) ∨
      (kind = "detections" ∧ f = .tooLarge ∧
        (Event.detections es : Except Fault (List (Detection Float))) = .error .tooLarge) ∨
      (kind = "detections" ∧ f = .overflow ∧
        ∃ before d after os, Event.detections es = .ok (before ++ d :: after) ∧
          (Fuser.processAll setup.fuser (l.services setup) setup.publish l.fuser before).result =
            .ok os ∧
          Fuser.Overflows setup.fuser (l.services setup) d) ∨
      (kind = "landmarks" ∧ f = .tooLarge ∧ ∃ ls : List (Except Fault (Landmark Float)),
        Event.landmarks es = .ok ls ∧ Registry.collect ls = .error .tooLarge) := by
  constructor
  · intro hends
    cases hends with
    | unnamed hfails =>
        rw [hkind] at hfails
        cases hfails
    | reference hname hread =>
        cases hkind.symm.trans hname
        exact .inl ⟨rfl, rfl, hread⟩
    | detections hname hread =>
        cases hkind.symm.trans hname
        exact .inr (.inl ⟨rfl, rfl, hread⟩)
    | cycle hname hread hbefore hoverflows =>
        cases hkind.symm.trans hname
        exact .inr (.inr (.inl ⟨rfl, rfl, _, _, _, _, hread, hbefore, hoverflows⟩))
    | landmarks hname hread hcollect =>
        cases hkind.symm.trans hname
        exact .inr (.inr (.inr ⟨rfl, rfl, _, hread, hcollect⟩))
  · rintro (⟨rfl, rfl, hread⟩ | ⟨rfl, rfl, hread⟩ |
      ⟨rfl, rfl, before, d, after, os, hread, hbefore, hoverflows⟩ |
      ⟨rfl, rfl, ls, hread, hcollect⟩)
    · exact .reference hkind hread
    · exact .detections hkind hread
    · exact .cycle hkind hread hbefore hoverflows
    · exact .landmarks hkind hread hcollect

theorem ends_reference_iff (hkind : kindOf es = .ok "reference_pose") :
    Ends setup l es f ↔
      f = .tooLarge ∧
        (Event.reference es : Except Fault (ReferencePose Float)) = .error .tooLarge := by
  rw [ends_iff hkind]
  simp

theorem ends_detections_iff (hkind : kindOf es = .ok "detections") :
    Ends setup l es f ↔
      (f = .tooLarge ∧
        (Event.detections es : Except Fault (List (Detection Float))) = .error .tooLarge) ∨
      (f = .overflow ∧ ∃ before d after os, Event.detections es = .ok (before ++ d :: after) ∧
        (Fuser.processAll setup.fuser (l.services setup) setup.publish l.fuser before).result =
          .ok os ∧
        Fuser.Overflows setup.fuser (l.services setup) d) := by
  rw [ends_iff hkind]
  simp

theorem ends_landmarks_iff (hkind : kindOf es = .ok "landmarks") :
    Ends setup l es f ↔
      f = .tooLarge ∧ ∃ ls : List (Except Fault (Landmark Float)),
        Event.landmarks es = .ok ls ∧ Registry.collect ls = .error .tooLarge := by
  rw [ends_iff hkind]
  simp

theorem not_ends_of_unknown {kind : String} (hkind : kindOf es = .ok kind)
    (hreference : kind ≠ "reference_pose") (hdetections : kind ≠ "detections")
    (hlandmarks : kind ≠ "landmarks") : ¬ Ends setup l es f := by
  rw [ends_iff hkind]
  simp [hreference, hdetections, hlandmarks]

/-- An event whose type cannot be written out ends the replay, whatever else it holds. -/
theorem ends_iff_of_unnamed {g : Fault} (hkind : kindOf es = .error g) :
    Ends setup l es f ↔ f = g := by
  constructor
  · intro hends
    cases hends with
    | unnamed hfails =>
        cases hkind.symm.trans hfails
        rfl
    | _ hname => cases hkind.symm.trans hname
  · rintro rfl
    exact .unnamed hkind

end Kinds

/-! ### The handlers -/

theorem reference_error_iff (hkind : kindOf es = .ok "reference_pose") :
    (reference s es).outcome = .error f ∧ isSkipped f = false ↔ Ends setup s.localizer es f := by
  have hread : (reference s es).outcome = .error f ↔
      (Event.reference es : Except Fault (ReferencePose Float)) = .error f := by
    unfold reference
    cases (Event.reference es : Except Fault (ReferencePose Float)) <;> simp
  rw [hread, Event.reference_skipped.error_iff, ends_reference_iff hkind]

theorem cycle_outcome_iff {ds : List (Detection Float)} (hread : Event.detections es = .ok ds) :
    (cycle setup s es).outcome = .error f ↔
      (Fuser.processAll setup.fuser (s.localizer.services setup) setup.publish s.localizer.fuser
        ds).result = .error f := by
  obtain ⟨t, ht⟩ := Event.stamp_of_detections hread
  rw [← process_error_iff_of_stamp ht]
  unfold cycle
  rw [hread]
  dsimp only
  cases (Localizer.process setup s.localizer ((Value.lookup "t" es).getD .null) ds
    none).result <;> simp

theorem cycle_error_iff (hpublish : RefusesSkipped setup.publish)
    (hkind : kindOf es = .ok "detections") :
    (cycle setup s es).outcome = .error f ∧ isSkipped f = false ↔
      Ends setup s.localizer es f := by
  rw [ends_detections_iff hkind]
  cases hread : (Event.detections es : Except Fault (List (Detection Float))) with
  | error g =>
      have houtcome : (cycle setup s es).outcome = .error f ↔
          (Event.detections es : Except Fault (List (Detection Float))) = .error f := by
        unfold cycle
        simp [hread]
      rw [houtcome, Event.detections_skipped.error_iff, hread]
      simp
  | ok ds =>
      rw [cycle_outcome_iff hread, processAll_error_iff_overflows hpublish]
      simp

omit [Numerics Float] in
theorem landmarks_outcome_iff {ls : List (Except Fault (Landmark Float))}
    (hread : Event.landmarks es = .ok ls) :
    (landmarks s es).outcome = .error f ↔ Registry.collect ls = .error f := by
  unfold landmarks Localizer.setLandmarks
  rw [hread]
  cases hcollect : Registry.collect ls <;> simp [hcollect, Except.map]

theorem landmarks_error_iff (hkind : kindOf es = .ok "landmarks") :
    (landmarks s es).outcome = .error f ∧ isSkipped f = false ↔ Ends setup s.localizer es f := by
  rw [ends_landmarks_iff hkind]
  have hlisted : SkippedUnless False
      (Event.landmarks es : Except Fault (List (Except Fault (Landmark Float)))) :=
    Event.landmarks_skipped
  cases hread : (Event.landmarks es : Except Fault (List (Except Fault (Landmark Float)))) with
  | error g =>
      have houtcome : (landmarks s es).outcome = .error f ↔
          (Event.landmarks es : Except Fault (List (Except Fault (Landmark Float)))) =
            .error f := by
        unfold landmarks
        simp [hread]
      rw [houtcome, hlisted.error_iff]
      constructor
      · rintro ⟨_, hlarge⟩
        exact (hlisted.huge_of_tooLarge hlarge).elim
      · rintro ⟨_, ls, ⟨⟩, _⟩
  | ok ls =>
      have hcollect := Registry.collect_skipped (LandmarkMap.entry_skipped hread)
      rw [landmarks_outcome_iff hread, hcollect.error_iff]
      simp

/-! ### The step -/

theorem dispatch_error_iff (hpublish : RefusesSkipped setup.publish) {kind : String}
    (hkind : kindOf es = .ok kind) :
    (dispatch setup s kind es).outcome = .error f ∧ isSkipped f = false ↔
      Ends setup s.localizer es f := by
  unfold dispatch
  split
  next hreference =>
    subst hreference
    exact reference_error_iff hkind
  next hreference =>
    split
    next hdetections =>
      subst hdetections
      exact cycle_error_iff hpublish hkind
    next hdetections =>
      split
      next hlandmarks =>
        subst hlandmarks
        exact landmarks_error_iff hkind
      next hlandmarks =>
        have hnever : ¬ Ends setup s.localizer es f :=
          not_ends_of_unknown hkind hreference hdetections hlandmarks
        simp [hnever]

/-- One event fails exactly if it ends the replay. -/
theorem step_error_iff (hpublish : RefusesSkipped setup.publish) (s : State σ Float)
    (es : List (Value × Value)) (f : Fault) :
    (step setup s (.map es)).outcome = .error f ↔ Ends setup s.localizer es f := by
  simp only [step]
  cases hkind : kindOf es with
  | error g =>
      rw [ends_iff_of_unnamed hkind]
      constructor
      · rintro ⟨⟩
        rfl
      · rintro rfl
        rfl
  | ok kind =>
      simp only [skipping_error_iff]
      exact dispatch_error_iff hpublish hkind

end Events

/-! ## All events -/

section Runs

variable [Numerics Float]
variable {σ : Type} {setup : Setup σ Float}

/-- A run over events fails exactly at the first one that ends it. -/
theorem steps_error_iff (hpublish : RefusesSkipped setup.publish) (s : State σ Float)
    (events : List (List (Value × Value))) (f : Fault) :
    (steps setup s (events.map .map)).outcome = .error f ↔
      ∃ before es after, events = before ++ es :: after ∧
        (steps setup s (before.map .map)).outcome = .ok () ∧
        Ends setup (steps setup s (before.map .map)).state.localizer es f := by
  induction events generalizing s with
  | nil =>
      constructor
      · rintro ⟨⟩
      · rintro ⟨before, es, after, hsplit, _⟩
        simp at hsplit
  | cons e events ih =>
      simp only [List.map_cons, steps]
      cases hstep : (step setup s (.map e)).outcome with
      | error g =>
          dsimp only
          constructor
          · intro hfails
            exact ⟨[], e, events, rfl, rfl, (step_error_iff hpublish s e f).mp hfails⟩
          · rintro ⟨before, es, after, hsplit, hbefore, hends⟩
            cases before with
            | nil =>
                cases hsplit
                exact (step_error_iff hpublish s e f).mpr hends
            | cons d before =>
                cases hsplit
                simp only [List.map_cons, steps, hstep] at hbefore
                cases hbefore
      | ok u =>
          simp only
          rw [ih]
          constructor
          · rintro ⟨before, es, after, rfl, hbefore, hends⟩
            refine ⟨e :: before, es, after, rfl, ?_, ?_⟩
            · simpa only [List.map_cons, steps, hstep] using hbefore
            · simpa only [List.map_cons, steps, hstep] using hends
          · rintro ⟨before, es, after, hsplit, hbefore, hends⟩
            cases before with
            | nil =>
                cases hsplit
                have hfails := (step_error_iff hpublish s e f).mpr hends
                rw [hstep] at hfails
                cases hfails
            | cons d before =>
                cases hsplit
                simp only [List.map_cons, steps, hstep] at hbefore hends
                exact ⟨before, es, after, rfl, hbefore, hends⟩

theorem run_error_iff_of_collect (setup : Setup σ Float) (published : σ)
    {map : List (Landmark Float)} {r : Registry Float}
    (hcollect : Registry.collect (map.map .ok) = .ok r) (events : List Value)
    (ending : Option Fault) (f : Fault) :
    (run setup published map events ending).outcome = .error f ↔
      (steps setup (loaded published map) events).outcome = .error f ∨
        (steps setup (loaded published map) events).outcome = .ok () ∧ ending = some f := by
  have hloaded :
      ((start published : State σ Float).localizer.setLandmarks (map.map .ok)).result = .ok r := by
    simp only [Localizer.setLandmarks, hcollect]
  simp only [run, hloaded, loaded]
  cases (steps setup _ events).outcome with
  | error g => simp
  | ok u => cases ending <;> simp

/-- A replay fails as its map is refused, at the first event that ends it, or, with all events
replayed, in the ending of its stream. -/
theorem run_error_iff (hpublish : RefusesSkipped setup.publish) (published : σ)
    (map : List (Landmark Float)) (events : List (List (Value × Value))) (ending : Option Fault)
    (f : Fault) :
    (run setup published map (events.map .map) ending).outcome = .error f ↔
      Registry.collect (map.map .ok) = .error f ∨
        ∃ r, Registry.collect (map.map .ok) = .ok r ∧
          ((∃ before es after, events = before ++ es :: after ∧
              (run setup published map (before.map .map) none).outcome = .ok () ∧
              Ends setup (run setup published map (before.map .map) none).state.localizer es f) ∨
            (run setup published map (events.map .map) none).outcome = .ok () ∧
              ending = some f) := by
  cases hcollect : Registry.collect (map.map Except.ok) with
  | error g =>
      have houtcome : (run setup published map (events.map .map) ending).outcome = .error g := by
        simp only [run, Localizer.setLandmarks, hcollect]
      simp [houtcome]
  | ok r =>
      have hrun := run_of_collect setup published hcollect
      rw [run_error_iff_of_collect setup published hcollect, steps_error_iff hpublish]
      simp only [reduceCtorEq, false_or, Except.ok.injEq, exists_eq_left', (hrun _).1, (hrun _).2]

/-- A replay whose map has distinct ids is a run over its events. -/
theorem run_of_nodup (setup : Setup σ Float) (published : σ) {map : List (Landmark Float)}
    (hids : (map.map (·.id)).Nodup) :
    ∃ s : State σ Float, s.events = 0 ∧ ∀ events,
      (run setup published map events none).outcome = (steps setup s events).outcome ∧
      (run setup published map events none).state = (steps setup s events).state := by
  obtain ⟨r, hcollect⟩ := Registry.collect_of_nodup hids
  exact ⟨loaded published map, rfl, run_of_collect setup published hcollect⟩

end Runs

/-! ## What ends a replay -/

section Causes

variable [Numerics Float]
variable {σ : Type} (setup : Setup σ Float)

/-- Why an event ends a replay: it holds a number too long to be written or one beyond the doubles,
or the fuser overflows on one of its detections. -/
inductive Cause (l : Localizer σ Float) (es : List (Value × Value)) : Fault → Prop
  | long (hlong : (Value.map es).HoldsLong) : Cause l es Value.tooLong
  | huge (hhuge : (Value.map es).HoldsHuge) : Cause l es .tooLarge
  | overflow {ds : List (Detection Float)} {d : Detection Float}
      (hread : Event.detections es = .ok ds) (hmem : d ∈ ds)
      (hoverflows : Fuser.Overflows setup.fuser (l.services setup) d) : Cause l es .overflow

structure Replayed (replay : List (List (Value × Value)) → Progress σ Float)
    (events : List (List (Value × Value))) : Prop where
  error_iff : ∀ f, (replay events).outcome = .error f ↔
    ∃ before es after, events = before ++ es :: after ∧
      (replay before).outcome = .ok () ∧ Ends setup (replay before).state.localizer es f
  all_counted : (replay events).outcome = .ok () →
    (replay events).state.summary.events = events.length
  cause : ∀ l es f, Ends setup l es f → Cause setup l es f

variable {setup}

omit [Numerics Float] in
theorem holdsLong_of_kindOf {es : List (Value × Value)} {f : Fault}
    (hkind : kindOf es = .error f) : f = Value.tooLong ∧ (Value.map es).HoldsLong := by
  unfold kindOf Value.name at hkind
  split at hkind
  next => cases hkind
  next hwritable =>
    cases hkind
    refine ⟨rfl, ?_⟩
    cases hlookup : Value.lookup "type" es with
    | none =>
        rw [hlookup] at hwritable
        simp [Value.isWritable] at hwritable
    | some v =>
        rw [hlookup] at hwritable
        obtain ⟨n, hn, hlong⟩ :=
          Value.holdsLong_of_not_isWritable v (by simpa using hwritable)
        exact ⟨n, (Value.contains_of_lookup hlookup).trans hn, hlong⟩

theorem cause_of_ends {l : Localizer σ Float} {es : List (Value × Value)} {f : Fault}
    (hends : Ends setup l es f) : Cause setup l es f := by
  cases hends with
  | unnamed hkind =>
      obtain ⟨rfl, hlong⟩ := holdsLong_of_kindOf hkind
      exact .long hlong
  | reference _ hread => exact .huge (Event.reference_skipped.huge_of_tooLarge hread)
  | detections _ hread => exact .huge (Event.detections_skipped.huge_of_tooLarge hread)
  | cycle _ hread _ hoverflows => exact .overflow hread (by simp) hoverflows
  | landmarks _ hread hcollect =>
      have hskipped := Registry.collect_skipped (LandmarkMap.entry_skipped hread)
      exact .huge (hskipped.huge_of_tooLarge hcollect)

theorem kind_of_ends {l : Localizer σ Float} {es : List (Value × Value)} {f : Fault}
    (hends : Ends setup l es f) : f.kind = .value ∨ f.kind = .overflow := by
  cases cause_of_ends hends with
  | long => exact .inl rfl
  | huge => exact .inr rfl
  | overflow => exact .inr rfl

/-- A replay into a pose log ends in a fault exactly at the first event that ends it, and otherwise
counts every event.  What an event holds can only end it by the causes listed. -/
theorem run_replayed (c : Config) (name : String) (g : FrameGraph Float) (now : Float)
    (solver : PoseSolver Float) (log : PoseLog) {map : List (Landmark Float)}
    (hids : (map.map (·.id)).Nodup) (events : List (List (Value × Value))) :
    Replayed (Setup.ofConfig c name g.lookup (PoseLog.publish now) solver)
      (fun events => run (Setup.ofConfig c name g.lookup (PoseLog.publish now) solver) log map
        (events.map .map) none)
      events := by
  obtain ⟨s, hzero, hrun⟩ :=
    run_of_nodup (Setup.ofConfig c name g.lookup (PoseLog.publish now) solver) log hids
  have hpublish : RefusesSkipped (PoseLog.publish (α := Float) now) :=
    fun l e => PoseLog.publish_skipped now l e
  constructor
  case error_iff =>
    intro f
    rw [(hrun _).1, steps_error_iff hpublish s events f]
    constructor
    · rintro ⟨before, es, after, hsplit, hbefore, hends⟩
      refine ⟨before, es, after, hsplit, ?_, ?_⟩
      · rw [(hrun _).1]
        exact hbefore
      · rw [(hrun _).2]
        exact hends
    · rintro ⟨before, es, after, hsplit, hbefore, hends⟩
      rw [(hrun _).1] at hbefore
      rw [(hrun _).2] at hends
      exact ⟨before, es, after, hsplit, hbefore, hends⟩
  case all_counted =>
    intro hok
    rw [(hrun _).1] at hok
    change (run _ log map _ none).state.events = events.length
    rw [(hrun _).2, steps_events s _ hok, hzero, List.length_map, Nat.zero_add]
  case cause =>
    intro l es f hends
    exact cause_of_ends hends

end Causes

/-! ## An event with a huge number -/

def hugeNumber : Int := 10 ^ 400

def hugeStampEvent : List (Value × Value) :=
  [(.str "type", .str "reference_pose"), (.str "t", .int hugeNumber),
    (.str "position", .list [.float 0, .float 0, .float 0])]

theorem run_replayed_huge_stamp :
    ∃ c, Config.ofDocument (OriginScene.document 10) = .ok c ∧
      (run (Setup.ofConfig c "localizer" (FrameGraph.empty (α := Float)).lookup
        (PoseLog.publish 0) OriginScene.noSolver) (PoseLog.new 1 0 0) [OriginScene.landmark]
        [.map hugeStampEvent] none).outcome = .error .tooLarge := by
  have hread : (Config.ofDocument (OriginScene.document 10)).isOk = true := by decide +kernel
  cases hconfig : Config.ofDocument (OriginScene.document 10) with
  | error f =>
      rw [hconfig] at hread
      cases hread
  | ok c =>
      refine ⟨c, rfl, ?_⟩
      have hids : ([OriginScene.landmark].map (·.id)).Nodup := List.nodup_singleton _
      have hreplayed := run_replayed c "localizer" FrameGraph.empty 0 OriginScene.noSolver
        (PoseLog.new 1 0 0) hids [hugeStampEvent]
      have hkind : kindOf hugeStampEvent = .ok "reference_pose" := by
        simp [kindOf, hugeStampEvent, Value.lookup, Value.name, Value.isWritable, Value.text]
      have hhuge : Binary.ofInt? hugeNumber = none := by decide +kernel
      have hlarge : (Event.reference hugeStampEvent : Except Fault (ReferencePose Float)) =
          .error .tooLarge := by
        simp [Event.reference, Event.rotation, Event.stamp, Event.required, hugeStampEvent,
          Value.lookup, Value.toFloat, hhuge, bind, Except.bind]
      exact (hreplayed.error_iff .tooLarge).mpr
        ⟨[], hugeStampEvent, [], rfl, rfl, .reference hkind hlarge⟩

end Replay
end Fiducial
