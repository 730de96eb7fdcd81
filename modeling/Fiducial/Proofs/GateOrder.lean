import Fiducial.Proofs.DoubleArithmetic
import Fiducial.Proofs.FuserRun
import Fiducial.Proofs.JudgementCases
import Fiducial.Proofs.OriginScene

/-!
# The order of the gates

What a fuser does with a detection is decided by seven conditions, one for each reason to reject it.
A detection is accepted exactly if all of them hold, and otherwise it is rejected for the first one
that fails.  A service is asked only if every condition before it holds, and only an accepted
estimate reaches the publisher.

A bound of time or of position that is not a number bounds nothing: no difference is above it.
-/

namespace Fiducial
namespace Fuser

open Judgement
open scoped OriginScene

/-! ## Conditions -/

/-- A finite number that is at most the bound, if the bound is a number. -/
def Within (bound x : Float) : Prop := x.isFinite = true ∧ (x ≤ bound ∨ bound.isNaN = true)

def AtMost (bound x : Float) : Prop := x.isFinite = true ∧ x ≤ bound

/-- The condition whose failure is rejected for the given reason.  The comparison with the bounds of
time and position is `within`. -/
def Admits [Numerics Float] (within : Float → Float → Prop) (c : FuserConfig Float)
    (s : Services Float) (d : Detection Float) : Reason → Prop
  | .notWhitelisted => d.id ∈ c.gates.whitelist
  | .notInRegistry => ∃ l, s.landmark d.id = some l
  | .outOfRange =>
    (Gate.distanceSq d.pose).isFinite = true ∧
      ¬ Numerics.power c.gates.distance 2 < Gate.distanceSq d.pose
  | .transformUnavailable => ∃ t, s.frames c.baseFrame d.sensor = .answer (.found t)
  | .noReferencePose => ∃ r, s.reference = some r
  | .staleReference => ∃ r, s.reference = some r ∧ within c.gates.time (d.stamp - r.stamp)
  | .inconsistentPosition =>
    ∃ l t r, s.landmark d.id = some l ∧ s.frames c.baseFrame d.sensor = .answer (.found t) ∧
      s.reference = some r ∧
      (Transform.vehicleOnMap l.pose t d.pose).isFinite = true ∧
      within c.gates.position
        ((Transform.vehicleOnMap l.pose t d.pose).translation.sub r.position).norm

/-- The reasons whose conditions are looked at before that of a reason. -/
def before (reason : Reason) : List Reason := Reason.all.takeWhile (· ≠ reason)

/-- A reason is the first one, in the order of the gates, whose condition fails. -/
structure FirstFailing (admits : Reason → Prop) (reason : Reason) : Prop where
  earlier : ∀ r ∈ before reason, admits r
  fails : ¬ admits reason

/-- Services are asked one after the other, each at most once, and each exactly if the conditions
before its own hold. -/
structure AsksInOrder (c : FuserConfig Float) (d : Detection Float) (admits : Reason → Prop)
    (queries : List Query) : Prop where
  asked_prefix : queries <+: [.landmark d.id, .frames c.baseFrame d.sensor, .reference]
  landmark_iff : .landmark d.id ∈ queries ↔ ∀ r ∈ before .notInRegistry, admits r
  frames_iff :
    .frames c.baseFrame d.sensor ∈ queries ↔ ∀ r ∈ before .transformUnavailable, admits r
  reference_iff : .reference ∈ queries ↔ ∀ r ∈ before .noReferencePose, admits r

/-- What a fuser does with a detection for which it returns an outcome. -/
structure Decided {σ : Type} (c : FuserConfig Float) (publish : Publisher σ Float)
    (state : State σ) (d : Detection Float) (admits : Reason → Prop)
    (step : Step σ (Outcome Float)) (o : Outcome Float) : Prop where
  id_eq : o.id = d.id
  accepted_iff : o.verdict.isAccepted = true ↔ ∀ r, admits r
  rejected_first : ∀ why, o.verdict = .rejected why → FirstFailing admits why.reason
  asks : AsksInOrder c d admits step.queries
  accepted_effect : ∀ e, o.verdict = .accepted e →
    publish state.published e = .ok step.state.published ∧
      step.state.tally = state.tally.accept
  rejected_effect : ∀ why, o.verdict = .rejected why →
    step.state = ⟨state.tally.reject why.reason, state.published⟩

/-! ## Conditions in order -/

theorem forall_before_next {admits : Reason → Prop} {r next : Reason}
    (hnext : before next = before r ++ [r]) :
    (∀ e ∈ before next, admits e) ↔ (∀ e ∈ before r, admits e) ∧ admits r := by
  rw [hnext]
  simp [or_imp, forall_and]

theorem forall_reason_iff {admits : Reason → Prop} :
    (∀ r, admits r) ↔
      (∀ e ∈ before .inconsistentPosition, admits e) ∧ admits .inconsistentPosition := by
  constructor
  · intro hall
    exact ⟨fun e _ => hall e, hall _⟩
  · rintro ⟨hbefore, hlast⟩ r
    by_cases hr : r = .inconsistentPosition
    · rw [hr]
      exact hlast
    · apply hbefore
      cases r <;> simp_all [before, Reason.all]

theorem before_subset {r r' : Reason} (hnot : r ∉ before r') :
    ∀ e ∈ before r', e ∈ before r := by
  cases r <;> cases r' <;> simp_all [before, Reason.all, List.takeWhile]

/-- The conditions before a reason hold exactly if the first failing one is not among them. -/
theorem FirstFailing.before_iff {admits : Reason → Prop} {r : Reason}
    (hfirst : FirstFailing admits r) (r' : Reason) :
    (∀ e ∈ before r', admits e) ↔ r ∉ before r' := by
  constructor
  · intro hbefore hmem
    exact hfirst.fails (hbefore r hmem)
  · intro hnot e he
    exact hfirst.earlier e (before_subset hnot e he)

/-! ## Conditions met at each stage -/

theorem within_iff {bound x : Float} :
    Within bound x ↔ Scalar.isFinite x = true ∧ Scalar.lt bound x = false := by
  constructor
  · rintro ⟨hfinite, hbound⟩
    exact ⟨hfinite, (Double.not_above_iff hfinite).mpr hbound⟩
  · rintro ⟨hfinite, hbound⟩
    exact ⟨hfinite, (Double.not_above_iff hfinite).mp hbound⟩

theorem not_within_iff {bound x : Float} :
    ¬ Within bound x ↔ Scalar.isFinite x = false ∨ Scalar.lt bound x = true := by
  rw [within_iff, not_and_or]
  simp

section Stages

variable [Numerics Float]
variable {c : FuserConfig Float} {s : Services Float} {d : Detection Float}
variable {l : Landmark Float} {t : Transform Float} {p : ReferencePose Float}

theorem limitSq_ok {distance limit : Float} (hlimit : Gate.limitSq distance = .ok limit) :
    limit = Numerics.power distance 2 := by
  unfold Gate.limitSq Scalar.power? at hlimit
  split at hlimit
  next square hsquare =>
    cases hlimit
    dsimp only at hsquare
    split at hsquare
    · cases hsquare
    · exact (Option.some.inj hsquare).symm
  next => cases hlimit

theorem admits_before_of_listed (hlisted : d.id ∈ c.gates.whitelist) :
    ∀ r ∈ before .notInRegistry, Admits Within c s d r := by
  rw [forall_before_next (r := .notWhitelisted) rfl]
  exact ⟨by simp [before, Reason.all], hlisted⟩

theorem admits_before_of_known (hknown : Known c s d l) :
    ∀ r ∈ before .outOfRange, Admits Within c s d r := by
  rw [forall_before_next (r := .notInRegistry) rfl]
  exact ⟨admits_before_of_listed hknown.listed, l, hknown.landmark⟩

theorem admits_before_of_inRange (hrange : InRange c s d l) :
    ∀ r ∈ before .transformUnavailable, Admits Within c s d r := by
  rw [forall_before_next (r := .outOfRange) rfl]
  obtain ⟨limit, hlimit, hnear⟩ := hrange.limit
  rw [limitSq_ok hlimit] at hnear
  exact ⟨admits_before_of_known hrange.toKnown, hrange.finite, of_decide_eq_false hnear⟩

theorem admits_before_of_placed (hplaced : Placed c s d l t) :
    ∀ r ∈ before .noReferencePose, Admits Within c s d r := by
  rw [forall_before_next (r := .transformUnavailable) rfl]
  exact ⟨admits_before_of_inRange hplaced.toInRange, t, hplaced.found⟩

theorem admits_before_of_referenced (hreferenced : Referenced c s d l t p) :
    ∀ r ∈ before .staleReference, Admits Within c s d r := by
  rw [forall_before_next (r := .noReferencePose) rfl]
  exact ⟨admits_before_of_placed hreferenced.toPlaced, p, hreferenced.reference⟩

theorem admits_before_of_fresh (hfresh : Fresh c s d l t p) :
    ∀ r ∈ before .inconsistentPosition, Admits Within c s d r := by
  rw [forall_before_next (r := .staleReference) rfl]
  have hwithin : Within c.gates.time (d.stamp - p.stamp) :=
    within_iff.mpr ⟨hfresh.ageFinite, hfresh.ageWithin⟩
  exact ⟨admits_before_of_referenced hfresh.toReferenced, p, hfresh.reference, hwithin⟩

theorem admits_of_passed (hpassed : Passed c s d l t p) : ∀ r, Admits Within c s d r := by
  rw [forall_reason_iff]
  exact ⟨admits_before_of_fresh hpassed.toFresh, l, t, p, hpassed.landmark, hpassed.found,
    hpassed.reference, hpassed.poseFinite,
    within_iff.mpr ⟨hpassed.apartFinite, hpassed.apartWithin⟩⟩

/-- A stale reference pose fails the sixth condition, and only this reference pose can. -/
theorem not_admits_stale (hreferenced : Referenced c s d l t p)
    (hstale : Scalar.isFinite (d.stamp - p.stamp) = false ∨
      Scalar.lt c.gates.time (d.stamp - p.stamp) = true) :
    ¬ Admits Within c s d .staleReference := by
  rintro ⟨q, hq, hwithin⟩
  rw [hreferenced.reference] at hq
  cases hq
  exact not_within_iff.mpr hstale hwithin

theorem not_admits_inconsistent (hfresh : Fresh c s d l t p)
    (hinconsistent : Inconsistent c (Transform.vehicleOnMap l.pose t d.pose) p) :
    ¬ Admits Within c s d .inconsistentPosition := by
  rintro ⟨m, u, q, hm, hu, hq, hfinite, hwithin⟩
  rw [hfresh.landmark] at hm
  rw [hfresh.found] at hu
  rw [hfresh.reference] at hq
  cases hm
  cases hu
  cases hq
  rcases hinconsistent with hpose | hapart
  · rw [hpose] at hfinite
    cases hfinite
  · exact not_within_iff.mpr hapart hwithin

/-! ## Judgements in order -/

def askedBefore (c : FuserConfig Float) (d : Detection Float) : Reason → List Query
  | .notWhitelisted => []
  | .notInRegistry | .outOfRange => askedRegistry d
  | .transformUnavailable => askedFrames c d
  | .noReferencePose | .staleReference | .inconsistentPosition => askedReference c d

omit [Numerics Float] in
theorem asksInOrder_of_firstFailing {admits : Reason → Prop} {r : Reason}
    (hfirst : FirstFailing admits r) : AsksInOrder c d admits (askedBefore c d r) := by
  constructor
  · cases r <;> simp [askedBefore, askedRegistry, askedFrames, askedReference]
  · rw [hfirst.before_iff]
    cases r <;> simp [askedBefore, askedRegistry, askedFrames, askedReference, before, Reason.all]
  · rw [hfirst.before_iff]
    cases r <;> simp [askedBefore, askedRegistry, askedFrames, askedReference, before, Reason.all]
  · rw [hfirst.before_iff]
    cases r <;> simp [askedBefore, askedRegistry, askedFrames, askedReference, before, Reason.all]

omit [Numerics Float] in
theorem asksInOrder_of_all {admits : Reason → Prop} (hall : ∀ r, admits r) :
    AsksInOrder c d admits (askedReference c d) := by
  constructor <;> simp [askedRegistry, askedFrames, askedReference, hall]

/-- A judgement that rejects gives the first condition that fails. -/
theorem rejected_firstFailing {j : Judgement Float} (hjudged : Judged c s d j)
    {why : Rejection Float} (hverdict : j.verdict = .ok (.rejected why)) :
    FirstFailing (Admits Within c s d) why.reason ∧ j.queries = askedBefore c d why.reason := by
  cases hjudged with
  | unlisted r hreason hlisted =>
      cases hverdict
      rw [hreason]
      exact ⟨⟨by simp [before, Reason.all], hlisted⟩, rfl⟩
  | unknown r hreason hlisted hlandmark =>
      cases hverdict
      rw [hreason]
      refine ⟨⟨admits_before_of_listed hlisted, ?_⟩, rfl⟩
      rintro ⟨l, hl⟩
      rw [hlandmark] at hl
      cases hl
  | unmeasured r hreason l hknown hfinite =>
      cases hverdict
      rw [hreason]
      refine ⟨⟨admits_before_of_known hknown, ?_⟩, rfl⟩
      rintro ⟨hmeasured, _⟩
      exact absurd (hmeasured.symm.trans hfinite) (by decide)
  | unbounded l hmeasured hlimit => cases hverdict
  | far r hreason l hmeasured limit hlimit hfar =>
      cases hverdict
      rw [hreason]
      refine ⟨⟨admits_before_of_known hmeasured.toKnown, ?_⟩, rfl⟩
      rintro ⟨_, hnear⟩
      rw [limitSq_ok hlimit] at hfar
      exact hnear (of_decide_eq_true hfar)
  | unplaced r hreason l hrange answer hanswer hfound =>
      cases hverdict
      rw [hreason]
      refine ⟨⟨admits_before_of_inRange hrange, ?_⟩, rfl⟩
      rintro ⟨t, ht⟩
      exact hfound t (FrameReply.answer.inj (hanswer.symm.trans ht))
  | misshapen l hrange shape hshape hreply => cases hverdict
  | unreferenced r hreason l t hplaced hreference =>
      cases hverdict
      rw [hreason]
      refine ⟨⟨admits_before_of_placed hplaced, ?_⟩, rfl⟩
      rintro ⟨q, hq⟩
      rw [hreference] at hq
      cases hq
  | stale r hreason l t q hreferenced hstale =>
      cases hverdict
      rw [hreason]
      exact ⟨⟨admits_before_of_referenced hreferenced, not_admits_stale hreferenced hstale⟩, rfl⟩
  | inconsistent r hreason l t q hfresh hinconsistent =>
      cases hverdict
      rw [hreason]
      exact ⟨⟨admits_before_of_fresh hfresh, not_admits_inconsistent hfresh hinconsistent⟩, rfl⟩
  | passed l t q hpassed =>
      obtain ⟨e, _, hrejected⟩ := map_accepted_eq_ok_iff.mp hverdict
      cases hrejected

theorem accepted_admits {j : Judgement Float} (hjudged : Judged c s d j) {e : Estimate Float}
    (hverdict : j.verdict = .ok (.accepted e)) :
    (∀ r, Admits Within c s d r) ∧ j.queries = askedReference c d := by
  cases hjudged with
  | passed l t q hpassed => exact ⟨admits_of_passed hpassed, rfl⟩
  | _ => cases hverdict

end Stages

/-! ## Processing -/

section Processing

variable [Numerics Float]
variable {σ : Type} {publish : Publisher σ Float} {state : State σ}

/-- A detection for which an outcome is returned is accepted exactly if all conditions hold, and is
otherwise rejected for the first that fails; services and counters are used accordingly. -/
theorem process_decided {c : FuserConfig Float} {s : Services Float} {d : Detection Float}
    {o : Outcome Float} (hreturns : (process c s publish state d).result = .ok o) :
    Decided c publish state d (Admits Within c s d) (process c s publish state d) o := by
  have hjudged := judged_of c s d
  have hqueries := settle_queries publish state d.id (Judgement.of c s d)
  rcases settle_returns hreturns with
    ⟨why, hverdict, rfl, hstate⟩ | ⟨e, hverdict, rfl, hpublish, htally⟩
  · obtain ⟨hfirst, hasked⟩ := rejected_firstFailing hjudged hverdict
    constructor
    case id_eq => rfl
    case accepted_iff =>
      constructor
      · intro haccepted
        cases haccepted
      · intro hall
        exact absurd (hall why.reason) hfirst.fails
    case rejected_first =>
      rintro _ ⟨⟩
      exact hfirst
    case asks =>
      rw [process, hqueries, hasked]
      exact asksInOrder_of_firstFailing hfirst
    case accepted_effect =>
      rintro e ⟨⟩
    case rejected_effect =>
      rintro _ ⟨⟩
      exact hstate
  · obtain ⟨hall, hasked⟩ := accepted_admits hjudged hverdict
    constructor
    case id_eq => rfl
    case accepted_iff => exact ⟨fun _ => hall, fun _ => rfl⟩
    case rejected_first =>
      rintro why ⟨⟩
    case asks =>
      rw [process, hqueries, hasked]
      exact asksInOrder_of_all hall
    case accepted_effect =>
      rintro _ ⟨⟩
      exact ⟨hpublish, htally⟩
    case rejected_effect =>
      rintro why ⟨⟩

end Processing

/-- One step of a new fuser on the scene at the origin, with the given bound of time and a detection
made at the given time. -/
def originStep (time stamp : Float) : Step Nat (Outcome Float) :=
  process (OriginScene.config time) OriginScene.services OriginScene.counter ⟨Tally.empty, 0⟩
    (OriginScene.detectionAt stamp)

/-- A detection as old as the reference pose is accepted, and all conditions hold.  With a bound
that is not a number, so is one that is newer by a thousand seconds, which is not at most the bound.
-/
theorem process_decided_at_origin :
    (∃ o, (originStep 1 0).result = .ok o ∧
      Decided (OriginScene.config 1) OriginScene.counter ⟨Tally.empty, 0⟩
        (OriginScene.detectionAt 0)
        (Admits Within (OriginScene.config 1) OriginScene.services (OriginScene.detectionAt 0))
        (originStep 1 0) o) ∧
      ∃ o, (originStep Binary.nan 1000).result = .ok o ∧ o.verdict.isAccepted = true ∧
        Decided (OriginScene.config Binary.nan) OriginScene.counter ⟨Tally.empty, 0⟩
          (OriginScene.detectionAt 1000)
          (Admits Within (OriginScene.config Binary.nan) OriginScene.services
            (OriginScene.detectionAt 1000))
          (originStep Binary.nan 1000) o ∧
        ¬ ∀ r, Admits AtMost (OriginScene.config Binary.nan) OriginScene.services
          (OriginScene.detectionAt 1000) r := by
  constructor
  · have hok : (originStep 1 0).result.isOk = true := by decide +kernel
    cases hresult : (originStep 1 0).result with
    | error f =>
        rw [hresult] at hok
        cases hok
    | ok o => exact ⟨o, rfl, process_decided hresult⟩
  · have haccepts :
        (originStep Binary.nan 1000).result.toOption.any (·.verdict.isAccepted) = true := by
      decide +kernel
    cases hresult : (originStep Binary.nan 1000).result with
    | error f =>
        rw [hresult] at haccepts
        cases haccepts
    | ok o =>
        rw [hresult] at haccepts
        refine ⟨o, rfl, haccepts, process_decided hresult, fun hall => ?_⟩
        obtain ⟨r, hr, _, hage⟩ := hall .staleReference
        cases hr
        exact absurd hage (by decide +kernel)

end Fuser
end Fiducial
