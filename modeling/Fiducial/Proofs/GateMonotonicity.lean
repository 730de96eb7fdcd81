import Fiducial.Proofs.GateOrder
import Fiducial.Proofs.MapRelocation
import Fiducial.Proofs.PoseRecovery

/-!
# Wider gates and larger maps

One configuration of the gates is wider than another if it lists more landmarks and has larger
bounds.  With the wider gates and a map that keeps the landmarks of the smaller one, a detection in
exact arithmetic gets at least as far: past each gate that it passed before, and so to the same
estimate if it was accepted.  Read the other way, a rejection by the wider gates was one by the
narrower gates already, for the same reason or an earlier one.
-/

namespace Fiducial

/-! ## Gates that are cleared -/

namespace Judgement

open Fuser

variable {α : Type} [Scalar α] [Numerics α] {c : FuserConfig α} {s : Services α} {d : Detection α}

/-- The detection gets past every gate up to the one that rejects for the reason. -/
def Clears (c : FuserConfig α) (s : Services α) (d : Detection α) : Reason → Prop
  | .notWhitelisted => d.id ∈ c.gates.whitelist
  | .notInRegistry => ∃ l, Known c s d l
  | .outOfRange => ∃ l, InRange c s d l
  | .transformUnavailable => ∃ l t, Placed c s d l t
  | .noReferencePose => ∃ l t r, Referenced c s d l t r
  | .staleReference => ∃ l t r, Fresh c s d l t r
  | .inconsistentPosition => ∃ l t r, Passed c s d l t r

theorem Clears.earlier {r : Reason} (hclears : Clears c s d r) :
    ∀ r' ∈ before r, Clears c s d r' := by
  have hlisted : Clears c s d .notInRegistry → Clears c s d .notWhitelisted :=
    fun ⟨_, hknown⟩ => hknown.listed
  have hknown : Clears c s d .outOfRange → Clears c s d .notInRegistry :=
    fun ⟨l, hrange⟩ => ⟨l, hrange.toKnown⟩
  have hrange : Clears c s d .transformUnavailable → Clears c s d .outOfRange :=
    fun ⟨l, _, hplaced⟩ => ⟨l, hplaced.toInRange⟩
  have hplaced : Clears c s d .noReferencePose → Clears c s d .transformUnavailable :=
    fun ⟨l, t, _, hreferenced⟩ => ⟨l, t, hreferenced.toPlaced⟩
  have hreferenced : Clears c s d .staleReference → Clears c s d .noReferencePose :=
    fun ⟨l, t, r, hfresh⟩ => ⟨l, t, r, hfresh.toReferenced⟩
  have hfresh : Clears c s d .inconsistentPosition → Clears c s d .staleReference :=
    fun ⟨l, t, r, hpassed⟩ => ⟨l, t, r, hpassed.toFresh⟩
  cases r <;> simp only [before, Reason.all] <;> simp <;> tauto

/-- What clears a gate has cleared all gates before the next one. -/
theorem Clears.before_next {r next : Reason} (hclears : Clears c s d r)
    (hnext : before next = before r ++ [r]) : ∀ r' ∈ before next, Clears c s d r' :=
  (forall_before_next hnext).mpr ⟨hclears.earlier, hclears⟩

/-- A rejection is for the first gate that is not cleared. -/
theorem firstFailing_of_rejected {j : Judgement α} (hjudged : Judged c s d j) {why : Rejection α}
    (hverdict : j.verdict = .ok (.rejected why)) : FirstFailing (Clears c s d) why.reason := by
  cases hjudged with
  | unlisted r hreason hlisted =>
      cases hverdict
      rw [hreason]
      exact ⟨by simp [before, Reason.all], hlisted⟩
  | unknown r hreason hlisted hlandmark =>
      cases hverdict
      have hclears : Clears c s d .notWhitelisted := hlisted
      rw [hreason]
      refine ⟨Clears.before_next hclears rfl, ?_⟩
      rintro ⟨l, hknown⟩
      simp [hknown.landmark] at hlandmark
  | unmeasured r hreason l hknown hfinite =>
      cases hverdict
      have hclears : Clears c s d .notInRegistry := ⟨l, hknown⟩
      rw [hreason]
      refine ⟨Clears.before_next hclears rfl, ?_⟩
      rintro ⟨_, hrange⟩
      simp [hrange.finite] at hfinite
  | unbounded l hmeasured hlimit => cases hverdict
  | far r hreason l hmeasured limit hlimit hfar =>
      cases hverdict
      have hclears : Clears c s d .notInRegistry := ⟨l, hmeasured.toKnown⟩
      rw [hreason]
      refine ⟨Clears.before_next hclears rfl, ?_⟩
      rintro ⟨_, hrange⟩
      obtain ⟨limit', hlimit', hnear⟩ := hrange.limit
      rw [hlimit] at hlimit'
      cases hlimit'
      simp [hfar] at hnear
  | unplaced r hreason l hrange answer hanswer hfound =>
      cases hverdict
      have hclears : Clears c s d .outOfRange := ⟨l, hrange⟩
      rw [hreason]
      refine ⟨Clears.before_next hclears rfl, ?_⟩
      rintro ⟨_, t, hplaced⟩
      exact hfound t (FrameReply.answer.inj (hanswer.symm.trans hplaced.found))
  | misshapen l hrange shape hshape hreply => cases hverdict
  | unreferenced r hreason l t hplaced hreference =>
      cases hverdict
      have hclears : Clears c s d .transformUnavailable := ⟨l, t, hplaced⟩
      rw [hreason]
      refine ⟨Clears.before_next hclears rfl, ?_⟩
      rintro ⟨_, _, p, hreferenced⟩
      simp [hreferenced.reference] at hreference
  | stale r hreason l t p hreferenced hstale =>
      cases hverdict
      have hclears : Clears c s d .noReferencePose := ⟨l, t, p, hreferenced⟩
      rw [hreason]
      refine ⟨Clears.before_next hclears rfl, ?_⟩
      rintro ⟨_, _, q, hfresh⟩
      have hsame : p = q := by
        simpa [hreferenced.reference] using hfresh.reference
      subst hsame
      simp [hfresh.ageFinite, hfresh.ageWithin] at hstale
  | inconsistent r hreason l t p hfresh hinconsistent =>
      cases hverdict
      have hclears : Clears c s d .staleReference := ⟨l, t, p, hfresh⟩
      rw [hreason]
      refine ⟨Clears.before_next hclears rfl, ?_⟩
      rintro ⟨m, u, q, hpassed⟩
      have hlandmark : l = m := by
        simpa [hfresh.landmark] using hpassed.landmark
      have hframe : t = u := by
        simpa [hfresh.found] using hpassed.found
      have hreference : p = q := by
        simpa [hfresh.reference] using hpassed.reference
      subst hlandmark hframe hreference
      simp [Inconsistent, hpassed.poseFinite, hpassed.apartFinite, hpassed.apartWithin]
        at hinconsistent
  | passed l t p hpassed =>
      obtain ⟨e, _, hrejected⟩ := map_accepted_eq_ok_iff.mp hverdict
      cases hrejected

end Judgement

/-! ## The first failing condition -/

namespace Fuser

theorem before_or_eq_or_before (r r' : Reason) : r ∈ before r' ∨ r = r' ∨ r' ∈ before r := by
  cases r <;> cases r' <;> decide

/-- Of conditions that imply others the first one fails no later. -/
theorem FirstFailing.no_later {admits admits' : Reason → Prop}
    (himp : ∀ r, admits r → admits' r) {r r' : Reason} (hfirst : FirstFailing admits r)
    (hfirst' : FirstFailing admits' r') : r ∈ before r' ∨ r = r' := by
  by_contra hlater
  have hbefore : r' ∈ before r := by
    rcases before_or_eq_or_before r r' with hr | hr | hr
    · exact absurd (.inl hr) hlater
    · exact absurd (.inr hr) hlater
    · exact hr
  exact hfirst'.fails (himp r' (hfirst.earlier r' hbefore))

end Fuser

/-! ## Wider gates -/

noncomputable section

/-- The second gates list at least the landmarks of the first and have bounds at least as large. -/
structure GateConfig.Within (a b : GateConfig ℝ) : Prop where
  whitelist : ∀ id ∈ a.whitelist, id ∈ b.whitelist
  distance : a.distance ≤ b.distance
  time : a.time ≤ b.time
  position : a.position ≤ b.position

namespace Judgement

open Fuser

variable {c : FuserConfig ℝ} {a b : GateConfig ℝ} {s : Services ℝ}
variable {map : String → Option (Landmark ℝ)} {d : Detection ℝ}
variable {l : Landmark ℝ} {t : Transform ℝ} {r : ReferencePose ℝ}

theorem not_above_widen {x bound bound' : ℝ} (hle : bound ≤ bound')
    (hwithin : Scalar.lt bound x = false) : Scalar.lt bound' x = false := by
  simp only [Scalar.lt_real, decide_eq_false_iff_not, not_lt] at hwithin ⊢
  exact hwithin.trans hle

section Widening

variable (hab : a.Within b) (hpos : 0 ≤ a.distance)
variable (hmap : ∀ id l, s.landmark id = some l → map id = some l)

include hab hmap

theorem Known.widen (hknown : Known { c with gates := a } s d l) :
    Known { c with gates := b } { s with landmark := map } d l where
  listed := hab.whitelist d.id hknown.listed
  landmark := hmap d.id l hknown.landmark

include hpos

/-- The squares of the bounds are in the order of the bounds, which are not negative. -/
theorem InRange.widen (hrange : InRange { c with gates := a } s d l) :
    InRange { c with gates := b } { s with landmark := map } d l := by
  refine ⟨⟨hrange.toKnown.widen hab hmap, rfl⟩, b.distance ^ 2, rfl, ?_⟩
  obtain ⟨limit, hlimit, hnear⟩ := hrange.limit
  have hsquare : limit = a.distance ^ 2 := by
    simpa [Gate.limitSq, eq_comm] using hlimit
  have hle : Gate.distanceSq d.pose ≤ limit := by
    simpa using hnear
  have hbounds : a.distance ^ 2 ≤ b.distance ^ 2 := pow_le_pow_left₀ hpos hab.distance 2
  simp only [Scalar.lt_real, decide_eq_false_iff_not, not_lt]
  linarith

theorem Placed.widen (hplaced : Placed { c with gates := a } s d l t) :
    Placed { c with gates := b } { s with landmark := map } d l t :=
  ⟨hplaced.toInRange.widen hab hpos hmap, hplaced.found⟩

theorem Referenced.widen (hreferenced : Referenced { c with gates := a } s d l t r) :
    Referenced { c with gates := b } { s with landmark := map } d l t r :=
  ⟨hreferenced.toPlaced.widen hab hpos hmap, hreferenced.reference⟩

theorem Fresh.widen (hfresh : Fresh { c with gates := a } s d l t r) :
    Fresh { c with gates := b } { s with landmark := map } d l t r :=
  ⟨hfresh.toReferenced.widen hab hpos hmap, rfl, not_above_widen hab.time hfresh.ageWithin⟩

theorem Passed.widen (hpassed : Passed { c with gates := a } s d l t r) :
    Passed { c with gates := b } { s with landmark := map } d l t r :=
  ⟨hpassed.toFresh.widen hab hpos hmap, hpassed.poseFinite, rfl,
    not_above_widen hab.position hpassed.apartWithin⟩

theorem Clears.widen (reason : Reason)
    (hclears : Clears { c with gates := a } s d reason) :
    Clears { c with gates := b } { s with landmark := map } d reason := by
  cases reason with
  | notWhitelisted => exact hab.whitelist d.id hclears
  | notInRegistry => exact hclears.imp fun _ hknown => hknown.widen hab hmap
  | outOfRange => exact hclears.imp fun _ hrange => hrange.widen hab hpos hmap
  | transformUnavailable =>
      obtain ⟨l, t, hplaced⟩ := hclears
      exact ⟨l, t, hplaced.widen hab hpos hmap⟩
  | noReferencePose =>
      obtain ⟨l, t, r, hreferenced⟩ := hclears
      exact ⟨l, t, r, hreferenced.widen hab hpos hmap⟩
  | staleReference =>
      obtain ⟨l, t, r, hfresh⟩ := hclears
      exact ⟨l, t, r, hfresh.widen hab hpos hmap⟩
  | inconsistentPosition =>
      obtain ⟨l, t, r, hpassed⟩ := hclears
      exact ⟨l, t, r, hpassed.widen hab hpos hmap⟩

/-- The estimate does not depend on the gates. -/
theorem accepted_widen {e : Estimate ℝ}
    (haccepted : (Judgement.of { c with gates := a } s d).verdict = .ok (.accepted e)) :
    (Judgement.of { c with gates := b } { s with landmark := map } d).verdict =
      .ok (.accepted e) := by
  obtain ⟨l, t, r, hpassed, _⟩ := passed_of_accepted haccepted
  have hnarrow := verdict_of_passed hpassed
  have hwide := verdict_of_passed (hpassed.widen hab hpos hmap)
  calc
    (Judgement.of { c with gates := b } { s with landmark := map } d).verdict =
        (estimate { c with gates := b } d (Transform.vehicleOnMap l.pose t d.pose)).map
          .accepted := hwide
    _ = (estimate { c with gates := a } d (Transform.vehicleOnMap l.pose t d.pose)).map
          .accepted := rfl
    _ = .ok (.accepted e) := hnarrow.symm.trans haccepted

theorem rejected_widen {why : Rejection ℝ}
    (hrejected : (Judgement.of { c with gates := b } { s with landmark := map } d).verdict =
      .ok (.rejected why)) :
    ∃ why', (Judgement.of { c with gates := a } s d).verdict = .ok (.rejected why') ∧
      (why'.reason ∈ before why.reason ∨ why'.reason = why.reason) := by
  rcases verdict_exact { c with gates := a } s d with
    ⟨e | why', hverdict⟩ | ⟨l, shape, hshape, hrange, hreply⟩
  case inl.accepted =>
      have haccepted := accepted_widen hab hpos hmap hverdict
      rw [hrejected] at haccepted
      cases haccepted
  case inr =>
      have hwide := verdict_of_misshapen (hrange.widen hab hpos hmap) hreply
      rw [hrejected] at hwide
      cases hwide
  case inl.rejected =>
      have hnarrow := firstFailing_of_rejected (judged_of _ s d) hverdict
      have hwide := firstFailing_of_rejected (judged_of _ { s with landmark := map } d) hrejected
      exact ⟨why', hverdict, hnarrow.no_later (Clears.widen hab hpos hmap) hwide⟩

end Widening

end Judgement

namespace Fuser

/-! ## Processing -/

/-- What the step of a fuser with wider gates and a larger map has in common with the step of the
narrower one, for one detection and one publisher. -/
structure Widens {σ : Type} (publish : Publisher σ ℝ) (published : σ) (d : Detection ℝ)
    (narrow wide : Step σ (Outcome ℝ)) : Prop where
  accepted : ∀ e, narrow.result = .ok ⟨d.id, .accepted e⟩ →
    wide.result = .ok ⟨d.id, .accepted e⟩ ∧
      publish published e = .ok narrow.state.published ∧
      wide.state.published = narrow.state.published
  rejected : ∀ why, wide.result = .ok ⟨d.id, .rejected why⟩ →
    ∃ why', narrow.result = .ok ⟨d.id, .rejected why'⟩ ∧
      (why'.reason ∈ before why.reason ∨ why'.reason = why.reason)

/-- A bound of the distance is squared, so the narrower one must not be negative. -/
theorem process_widens {σ : Type} {a b : GateConfig ℝ} (c : FuserConfig ℝ) (s : Services ℝ)
    (map : String → Option (Landmark ℝ)) (publish : Publisher σ ℝ) (tally tally' : Tally)
    (published : σ) (d : Detection ℝ) (hab : a.Within b) (hpos : 0 ≤ a.distance)
    (hmap : ∀ id l, s.landmark id = some l → map id = some l) :
    Widens publish published d
      (process { c with gates := a } s publish ⟨tally, published⟩ d)
      (process { c with gates := b } { s with landmark := map } publish ⟨tally', published⟩ d) := by
  constructor
  case accepted =>
    intro e hnarrow
    obtain ⟨hverdict, hpublish⟩ := accepted_of_settle hnarrow
    have hwide := Judgement.accepted_widen hab hpos hmap hverdict
    have hnext : publish (⟨tally', published⟩ : State σ).published e = .ok _ := hpublish
    unfold process
    rw [settle_of_accepted hwide hnext]
    exact ⟨rfl, hpublish, rfl⟩
  case rejected =>
    intro why hwide
    have hverdict := settle_rejected_iff.mp hwide
    obtain ⟨why', hnarrow, hearlier⟩ := Judgement.rejected_widen hab hpos hmap hverdict
    exact ⟨why', settle_rejected_iff.mpr hnarrow, hearlier⟩

end Fuser

/-! ## Quarter turns under wider gates -/

namespace QuarterTurns

/-- A map with no other landmark than the one that is seen. -/
def oneLandmark : Services ℝ :=
  { services with landmark := fun id => if id = "5" then some landmark else none }

def widerGates : GateConfig ℝ :=
  ⟨["7", "5"], config.gates.distance + 1, config.gates.time, config.gates.position + 1⟩

theorem within_widerGates : config.gates.Within widerGates := by
  constructor <;> norm_num [config, widerGates]

theorem oneLandmark_le (id : String) (l : Landmark ℝ) (hl : oneLandmark.landmark id = some l) :
    services.landmark id = some l := by
  simp only [oneLandmark] at hl
  split at hl
  · exact hl
  · cases hl

theorem accepts_oneLandmark (tally : Tally) (published : Nat) :
    ∃ e, (Fuser.process config oneLandmark counter ⟨tally, published⟩ detection).result =
      .ok ⟨"5", .accepted e⟩ := by
  have hpassed : Judgement.Passed config oneLandmark detection landmark sensor ⟨0, vehicle⟩ :=
    ⟨⟨⟨⟨⟨⟨⟨passed.listed, rfl⟩, passed.finite⟩, passed.limit⟩, passed.found⟩, passed.reference⟩,
      passed.ageFinite, passed.ageWithin⟩, passed.poseFinite, passed.apartFinite,
      passed.apartWithin⟩
  have hverdict := Judgement.verdict_of_passed hpassed
  obtain ⟨e, hestimate⟩ := Judgement.estimate_exact config detection
    (Transform.vehicleOnMap landmark.pose sensor detection.pose)
  rw [hestimate] at hverdict
  exact ⟨e, congrArg Fuser.Step.result (Fuser.settle_of_accepted hverdict rfl)⟩

end QuarterTurns

/-- The detection that the narrower gates accept is accepted by wider ones, with the same estimate,
on a map that has a landmark for every id. -/
theorem process_widens_quarter_turns :
    ∃ e, (Fuser.process { QuarterTurns.config with gates := QuarterTurns.widerGates }
        QuarterTurns.services QuarterTurns.counter ⟨Tally.empty, 0⟩ QuarterTurns.detection).result =
          .ok ⟨"5", .accepted e⟩ ∧
      (Fuser.process QuarterTurns.config QuarterTurns.oneLandmark QuarterTurns.counter
        ⟨Tally.empty, 0⟩ QuarterTurns.detection).result = .ok ⟨"5", .accepted e⟩ := by
  obtain ⟨e, he⟩ := QuarterTurns.accepts_oneLandmark Tally.empty 0
  have hpos : 0 ≤ QuarterTurns.config.gates.distance := by norm_num [QuarterTurns.config]
  have hwidens := Fuser.process_widens QuarterTurns.config QuarterTurns.oneLandmark
    QuarterTurns.services.landmark QuarterTurns.counter Tally.empty Tally.empty 0
    QuarterTurns.detection QuarterTurns.within_widerGates hpos QuarterTurns.oneLandmark_le
  obtain ⟨hwide, _, _⟩ := hwidens.accepted e he
  exact ⟨e, hwide, he⟩

end

end Fiducial
