import Fiducial.Config.Reader
import Fiducial.Proofs.GateOrder

/-!
# When a fuser fails

Apart from a publisher that refuses an estimate, a fuser fails in three places.  Twice a power is
too large for a double: the square of the distance bound when the distance is compared with it, and
the third power of the distance when the covariance grows with it.  Neither bound nor distance need
be out of the ordinary for doubles; about `1.4e154` metres are enough for a bound.  Between them the
matrix of the frame service is composed with the observation, which a matrix of another shape than
four rows and columns does not allow.  Nothing else can fail, because a squared distance that has
passed its gate is finite and has no minus sign, so its root is a finite distance that is not
negative.
-/

namespace Fiducial
namespace Fuser

open Judgement

section Failures

variable [Numerics Float]

/-- The square of the distance bound is looked at and is too large. -/
structure RangeOverflows (c : FuserConfig Float) (s : Services Float) (d : Detection Float) :
    Prop where
  listed : d.id ∈ c.gates.whitelist
  landmark : ∃ l, s.landmark d.id = some l
  distanceFinite : (Gate.distanceSq d.pose).isFinite = true
  boundFinite : c.gates.distance.isFinite = true
  squareInfinite : (Numerics.power c.gates.distance 2).isFinite = false

/-- A detection that passes every gate is so far away that its covariance cannot be scaled. -/
structure CovarianceOverflows (c : FuserConfig Float) (s : Services Float) (d : Detection Float) :
    Prop where
  admitted : ∀ r, Admits Within c s d r
  tooFar :
    Scalar.power? (Scalar.sqrt (Gate.distanceSq d.pose) / Covariance.referenceDistance) 3 = none

/-- The detections on which a power is too large. -/
def Overflows (c : FuserConfig Float) (s : Services Float) (d : Detection Float) : Prop :=
  RangeOverflows c s d ∨ CovarianceOverflows c s d

/-- A detection in range, for which the frame service finds a matrix of this shape that is no
transform. -/
structure Misplaced (c : FuserConfig Float) (s : Services Float) (d : Detection Float)
    (shape : List Nat) : Prop where
  admitted : ∀ r ∈ before .transformUnavailable, Admits Within c s d r
  fits : ¬ RangeOverflows c s d
  reply : ∃ h, s.frames c.baseFrame d.sensor = .misshapen shape h

variable {c : FuserConfig Float} {s : Services Float} {d : Detection Float}

theorem power_eq_none_iff (x : Float) (n : Nat) :
    Scalar.power? x n = none ↔ x.isFinite = true ∧ (Numerics.power x n).isFinite = false := by
  have hiff : Scalar.power? x n = none ↔
      Scalar.isFinite x = true ∧ Scalar.isFinite (Numerics.power x n) = false := by
    simp [Scalar.power?]
  exact hiff

/-! ## The distance of a detection in range -/

omit [Numerics Float] in
theorem factor_of_finite {α : Type} [Scalar α] [Numerics α] {distance : α}
    (hfinite : Scalar.isFinite distance = true) (hsign : Scalar.lt distance 0 = false) :
    Covariance.factor distance =
      match Scalar.power? (distance / Covariance.referenceDistance) 3 with
      | none => .error .overflow
      | some x => .ok (Scalar.max 1 x) := by
  unfold Covariance.factor
  rw [hfinite, hsign]
  rfl

/-- The estimate of a detection at a finite distance fails exactly if its cube is too large. -/
theorem estimate_error_iff (pose : Transform Float) (f : Fault)
    (hfinite : (Gate.distanceSq d.pose).isFinite = true) :
    estimate c d pose = .error f ↔
      f = .overflow ∧
        Scalar.power? (Scalar.sqrt (Gate.distanceSq d.pose) / Covariance.referenceDistance) 3 =
          none := by
  obtain ⟨hroot, hsign⟩ :=
    Double.sqrt_finite_not_lt_zero hfinite (Double.isUnsigned_normSq d.pose.translation)
  have hfactor : Covariance.factor (Scalar.sqrt (Gate.distanceSq d.pose)) = _ :=
    factor_of_finite hroot hsign
  unfold estimate
  dsimp only
  rw [hfactor]
  cases Scalar.power? (Scalar.sqrt (Gate.distanceSq d.pose) / Covariance.referenceDistance) 3 with
  | none => simp [Covariance.Trouble.fault, eq_comm]
  | some x => simp

/-! ## Judgements that fail -/

theorem estimate_of_accepted {j : Judgement Float} (hjudged : Judged c s d j) {e : Estimate Float}
    (haccepted : j.verdict = .ok (.accepted e)) :
    ∃ pose, (Gate.distanceSq d.pose).isFinite = true ∧ estimate c d pose = .ok e := by
  cases hjudged with
  | passed l t p hpassed =>
      refine ⟨Transform.vehicleOnMap l.pose t d.pose, hpassed.finite, ?_⟩
      obtain ⟨e', hestimate, hsame⟩ := map_accepted_eq_ok_iff.mp haccepted
      cases hsame
      exact hestimate
  | _ => cases haccepted

theorem verdict_of_rangeOverflows (hrange : RangeOverflows c s d) :
    (Judgement.of c s d).verdict = .error .overflow := by
  obtain ⟨l, hl⟩ := hrange.landmark
  have hsquare : Scalar.power? c.gates.distance 2 = none :=
    (power_eq_none_iff _ _).mpr ⟨hrange.boundFinite, hrange.squareInfinite⟩
  have hlimit : Gate.limitSq c.gates.distance = .error .overflow :=
    (limitSq_error_iff _ _).mpr ⟨rfl, hsquare⟩
  have hgate :
      Gate.range c.gates.distance (Gate.distanceSq d.pose) = .error .overflow := by
    have hfinite : Scalar.isFinite (Gate.distanceSq d.pose) = true := hrange.distanceFinite
    simp [Gate.range, hfinite, hlimit]
  have hpass : Gate.whitelist (α := Float) c.gates.whitelist d.id = none := by
    simp [Gate.whitelist, hrange.listed]
  simp [Judgement.of, after, Services.askLandmark, settled, hpass, hl, locate, hgate]

/-- A detection that is admitted up to its range, and whose bound has a square, is in range. -/
theorem inRange_of_admits (hadmits : ∀ r ∈ before .transformUnavailable, Admits Within c s d r)
    (hfits : ¬ RangeOverflows c s d) : ∃ l, InRange c s d l := by
  have hlisted : d.id ∈ c.gates.whitelist := hadmits .notWhitelisted (by decide)
  obtain ⟨l, hl⟩ : ∃ l, s.landmark d.id = some l := hadmits .notInRegistry (by decide)
  obtain ⟨hfinite, hnear⟩ : (Gate.distanceSq d.pose).isFinite = true ∧
      ¬ Numerics.power c.gates.distance 2 < Gate.distanceSq d.pose :=
    hadmits .outOfRange (by decide)
  cases hlimit : Gate.limitSq c.gates.distance with
  | error f =>
      obtain ⟨-, hsquare⟩ := (limitSq_error_iff _ _).mp hlimit
      obtain ⟨hbound, hinfinite⟩ := (power_eq_none_iff _ _).mp hsquare
      exact absurd ⟨hlisted, ⟨l, hl⟩, hfinite, hbound, hinfinite⟩ hfits
  | ok limit =>
      have hwithin : Scalar.lt limit (Gate.distanceSq d.pose) = false := by
        rw [limitSq_ok hlimit]
        exact decide_eq_false hnear
      exact ⟨l, ⟨⟨hlisted, hl⟩, hfinite⟩, limit, hlimit, hwithin⟩

theorem verdict_of_misplaced {shape : List Nat} (hmisplaced : Misplaced c s d shape) :
    (Judgement.of c s d).verdict = .error (.notTransforms shape [4, 4]) := by
  obtain ⟨l, hrange⟩ := inRange_of_admits hmisplaced.admitted hmisplaced.fits
  obtain ⟨hshape, hreply⟩ := hmisplaced.reply
  exact verdict_of_misshapen hrange hreply

/-- What it means that a judgement fails with a fault. -/
def Fails (c : FuserConfig Float) (s : Services Float) (d : Detection Float) (f : Fault) : Prop :=
  (f = .overflow ∧ Overflows c s d) ∨
    ∃ shape, f = .notTransforms shape [4, 4] ∧ Misplaced c s d shape

theorem fails_of_verdict_error {j : Judgement Float} (hjudged : Judged c s d j) {f : Fault}
    (hfails : j.verdict = .error f) : Fails c s d f := by
  cases hjudged with
  | unbounded l hmeasured hlimit =>
      cases hfails
      obtain ⟨hbound, hinfinite⟩ := (power_eq_none_iff _ _).mp hlimit
      exact .inl ⟨rfl, .inl ⟨hmeasured.listed, ⟨l, hmeasured.landmark⟩, hmeasured.finite, hbound,
        hinfinite⟩⟩
  | misshapen l hrange shape hshape hreply =>
      cases hfails
      have hfits : ¬ RangeOverflows c s d := by
        intro hoverflows
        obtain ⟨limit, hlimit, -⟩ := hrange.limit
        have hsquare := (power_eq_none_iff _ _).mpr
          ⟨hoverflows.boundFinite, hoverflows.squareInfinite⟩
        rw [(limitSq_error_iff _ _).mpr ⟨rfl, hsquare⟩] at hlimit
        cases hlimit
      exact .inr ⟨shape, rfl, admits_before_of_inRange hrange, hfits, hshape, hreply⟩
  | passed l t p hpassed =>
      have hestimate := map_accepted_eq_error_iff.mp hfails
      obtain ⟨hoverflow, hcube⟩ := (estimate_error_iff _ _ hpassed.finite).mp hestimate
      exact .inl ⟨hoverflow, .inr ⟨admits_of_passed hpassed, hcube⟩⟩
  | _ => cases hfails

theorem verdict_of_covarianceOverflows (hcovariance : CovarianceOverflows c s d) :
    (Judgement.of c s d).verdict = .error .overflow := by
  have hjudged := judged_of c s d
  cases hverdict : (Judgement.of c s d).verdict with
  | error f =>
      rcases fails_of_verdict_error hjudged hverdict with ⟨hf, -⟩ | ⟨shape, -, hmisplaced⟩
      · rw [hf]
      · obtain ⟨hshape, hreply⟩ := hmisplaced.reply
        obtain ⟨t, hfound⟩ := hcovariance.admitted .transformUnavailable
        rw [hreply] at hfound
        cases hfound
  | ok v =>
      cases v with
      | rejected why =>
          obtain ⟨hfirst, _⟩ := rejected_firstFailing hjudged hverdict
          exact absurd (hcovariance.admitted _) hfirst.fails
      | accepted e =>
          obtain ⟨pose, hfinite, hestimate⟩ := estimate_of_accepted hjudged hverdict
          rw [(estimate_error_iff pose _ hfinite).mpr ⟨rfl, hcovariance.tooFar⟩] at hestimate
          cases hestimate

/-- A judgement fails exactly on the detections described above. -/
theorem verdict_error_iff (c : FuserConfig Float) (s : Services Float) (d : Detection Float)
    (f : Fault) : (Judgement.of c s d).verdict = .error f ↔ Fails c s d f := by
  constructor
  · exact fails_of_verdict_error (judged_of c s d)
  · rintro (⟨rfl, hrange | hcovariance⟩ | ⟨shape, rfl, hmisplaced⟩)
    · exact verdict_of_rangeOverflows hrange
    · exact verdict_of_covarianceOverflows hcovariance
    · exact verdict_of_misplaced hmisplaced

/-- With a frame service that gives transforms, a judgement fails only by overflow. -/
theorem overflows_of_givesTransforms (hframes : GivesTransforms s.frames) {f : Fault}
    (hfails : (Judgement.of c s d).verdict = .error f) : f = .overflow ∧ Overflows c s d := by
  rcases (verdict_error_iff c s d f).mp hfails with hoverflows | ⟨shape, -, hmisplaced⟩
  · exact hoverflows
  · obtain ⟨hshape, hreply⟩ := hmisplaced.reply
    obtain ⟨a, ha⟩ := hframes c.baseFrame d.sensor
    rw [hreply] at ha
    cases ha

/-! ## Processing -/

end Failures

/-! ## A configuration with a large distance bound -/

end Fuser
end Fiducial
