import Fiducial.Proofs.AcceptedConfigs
import Fiducial.Proofs.FiniteDoubles
import Fiducial.Proofs.JudgementCases
import Fiducial.Proofs.SessionAccounts

/-!
# Published estimates are finite and within the bounds

What a localizer publishes with a configuration that was accepted is finite, whatever stands in the
map, the frames, the reference pose and the detections.  The range gate has seen a finite distance,
so its root and the scale of the covariance are finite; the gate of time has seen a finite
difference of stamps, so the stamp is finite; the last gate looks at the pose itself.

In exact arithmetic an estimate also keeps the bounds of the configuration.  The range gate compares
squares, and because the bound is positive that is a comparison of the distances.
-/

namespace Fiducial

open Fuser

variable {σ α : Type}

/-! ## What a use publishes -/

section Published

variable [Scalar α] [Numerics α]

theorem Fuser.accepted_of_mem_returned (c : FuserConfig α) (s : Services α)
    (publish : Publisher σ α) (state : State σ) (ds : List (Detection α)) :
    ∀ e ∈ estimates (returned c s publish state ds),
      ∃ d ∈ ds, (Judgement.of c s d).verdict = .ok (.accepted e) := by
  induction ds generalizing state with
  | nil => exact List.forall_mem_nil _
  | cons d ds ih =>
      have hothers (next : State σ) : ∀ e ∈ estimates (returned c s publish next ds),
          ∃ d' ∈ d :: ds, (Judgement.of c s d').verdict = .ok (.accepted e) := by
        intro e he
        obtain ⟨d', hd', haccepted⟩ := ih next e he
        exact ⟨d', List.mem_cons_of_mem _ hd', haccepted⟩
      cases hfirst : (process c s publish state d).result with
      | error f =>
          simp only [returned, hfirst]
          exact List.forall_mem_nil _
      | ok o =>
          simp only [returned, hfirst]
          rcases settle_returns hfirst with ⟨why, _, rfl, _⟩ | ⟨e, hverdict, rfl, _⟩
          · exact hothers _
          · exact List.forall_mem_cons.mpr ⟨⟨d, List.mem_cons_self, hverdict⟩, hothers _⟩

namespace Session

/-- The estimates that a use publishes. -/
def publishedIn (s : Setup σ α) (l : Localizer σ α) (u : Use α) : List (Estimate α) :=
  let recording : Localizer (σ × List (Estimate α)) α :=
    ⟨l.registry, l.reference, l.camera, ⟨l.fuser.tally, (l.fuser.published, [])⟩⟩
  (after s.recording recording u).fuser.published.2

theorem published_after (s : Setup σ α) (l : Localizer (σ × List (Estimate α)) α) (u : Use α) :
    (after s.recording l u).fuser.published.2 =
      l.fuser.published.2 ++ estimates (u.outcomes s.recording l) := by
  rw [fuser_after]
  exact Publisher.record_all (processAll_settled s.fuser (u.services s.recording l)
    s.publish.recorded l.fuser (u.detections s.recording l)).published_eq

theorem accepted_of_mem_outcomes (s : Setup σ α) (l : Localizer (σ × List (Estimate α)) α)
    (u : Use α) : ∀ e ∈ estimates (u.outcomes s.recording l),
      ∃ d ∈ u.detections s.recording l,
        (Judgement.of s.fuser (u.services s.recording l) d).verdict = .ok (.accepted e) :=
  accepted_of_mem_returned s.fuser (u.services s.recording l) s.publish.recorded l.fuser
    (u.detections s.recording l)

omit [Numerics α] in
theorem detections_recording (s : Setup σ α) (l : Localizer (σ × List (Estimate α)) α)
    (u : Use α) : u.detections s.recording l = u.detections s l.unrecorded := by
  cases u with
  | process given d => rfl
  | batch given ds => rfl
  | call frames c =>
      cases c with
      | frame f => simp only [Use.detections, detections_recorded]
      | _ => rfl

/-- What a use publishes comes from one of its detections. -/
theorem accepted_of_publishedIn (s : Setup σ α) (l : Localizer σ α) (u : Use α) :
    ∀ e ∈ publishedIn s l u, ∃ d ∈ u.detections s l,
      (Judgement.of s.fuser (u.services s l) d).verdict = .ok (.accepted e) := by
  intro e he
  unfold publishedIn at he
  dsimp only at he
  rw [published_after, List.nil_append] at he
  obtain ⟨d, hd, haccepted⟩ := accepted_of_mem_outcomes s _ u e he
  rw [detections_recording] at hd
  refine ⟨d, hd, ?_⟩
  cases u <;> exact haccepted

theorem accepted_of_published (s : Setup σ α) (l : Localizer (σ × List (Estimate α)) α)
    (us : List (Use α)) : ∀ e ∈ (afterAll s.recording l us).fuser.published.2,
      e ∈ l.fuser.published.2 ∨
        ∃ given d, (Judgement.of s.fuser given d).verdict = .ok (.accepted e) := by
  induction us generalizing l with
  | nil => exact fun e he => .inl he
  | cons u us ih =>
      intro e he
      rcases ih (after s.recording l u) e he with hbefore | haccepted
      · rw [published_after, List.mem_append] at hbefore
        rcases hbefore with hold | hnew
        · exact .inl hold
        · obtain ⟨d, _, haccepted⟩ := accepted_of_mem_outcomes s l u e hnew
          exact .inr ⟨_, d, haccepted⟩
      · exact .inr haccepted

theorem accepted_of_publishedBy (s : Setup σ α) (published : σ) (us : List (Use α)) :
    ∀ e ∈ publishedBy s published us,
      ∃ given d, (Judgement.of s.fuser given d).verdict = .ok (.accepted e) := by
  intro e he
  rcases accepted_of_published s (.new (published, [])) us e he with hnone | haccepted
  · cases hnone
  · exact haccepted

end Session

/-! ## The parts of an estimate -/

namespace Judgement

theorem estimate_parts {c : FuserConfig α} {d : Detection α} {pose : Transform α}
    {e : Estimate α} (hestimate : estimate c d pose = .ok e) :
    e.stamp = d.stamp ∧ e.distance = Scalar.sqrt (Gate.distanceSq d.pose) ∧
      Covariance.factor e.distance = .ok e.scale := by
  unfold estimate at hestimate
  dsimp only at hestimate
  split at hestimate
  next => cases hestimate
  next k hfactor =>
    cases hestimate
    exact ⟨rfl, rfl, hfactor⟩

/-- An estimate is named after its detection, and its covariance is the base covariance times its
factor. -/
theorem estimate_fields {c : FuserConfig α} {d : Detection α} {pose : Transform α}
    {e : Estimate α} (hestimate : estimate c d pose = .ok e) :
    e.frame = c.mapFrame ∧ e.id = d.id ∧ e.covariance = c.covariance.scale e.scale := by
  unfold estimate at hestimate
  dsimp only at hestimate
  split at hestimate
  next => cases hestimate
  next =>
    cases hestimate
    exact ⟨rfl, rfl, rfl⟩

theorem estimate_of_verdict {c : FuserConfig α} {s : Services α} {d : Detection α}
    {l : Landmark α} {t : Transform α} {r : ReferencePose α} {e : Estimate α}
    (hpassed : Passed c s d l t r)
    (haccepted : (Judgement.of c s d).verdict = .ok (.accepted e)) :
    estimate c d (Transform.vehicleOnMap l.pose t d.pose) = .ok e := by
  rw [verdict_of_passed hpassed] at haccepted
  obtain ⟨e', hestimate, hsame⟩ := map_accepted_eq_ok_iff.mp haccepted
  cases hsame
  exact hestimate

end Judgement

omit [Numerics α] in
theorem Transform.finite_of_isFinite {t : Transform α} (ht : t.isFinite = true) :
    ∀ row ∈ t.rows, ∀ x ∈ row, Scalar.isFinite x = true := by
  simp only [Transform.isFinite, Mat3.isFinite, Vec3.isFinite, Bool.and_eq_true] at ht
  simp only [Transform.rows, Vec3.toList]
  aesop

theorem Scalar.isFinite_power {x y : α} {n : Nat} (hx : isFinite x = true)
    (hpower : power? x n = some y) : isFinite y = true := by
  unfold power? at hpower
  dsimp only at hpower
  split at hpower
  next => cases hpower
  next hnot =>
    cases hpower
    simpa [hx] using hnot

end Published

/-! ## Doubles -/

/-- An estimate with nothing in it that is not a number or not finite. -/
structure Estimate.Sound (e : Estimate Float) : Prop where
  stamp : e.stamp.isFinite = true
  pose : ∀ row ∈ e.pose.rows, ∀ x ∈ row, x.isFinite = true
  distance_finite : e.distance.isFinite = true
  distance_nonneg : 0 ≤ e.distance
  scale_finite : e.scale.isFinite = true
  one_le_scale : 1 ≤ e.scale

section Doubles

variable [Numerics Float]

theorem Covariance.factor_bounds {distance k : Float} (hfinite : distance.isFinite = true)
    (hfactor : factor distance = .ok k) : k.isFinite = true ∧ 1 ≤ k := by
  unfold factor at hfactor
  split at hfactor
  next => cases hfactor
  next =>
    split at hfactor
    next => cases hfactor
    next x hcube =>
      cases hfactor
      have hx : x.isFinite = true :=
        Scalar.isFinite_power (Double.isFinite_div_referenceDistance hfinite) hcube
      unfold Scalar.max
      split
      next hlt => exact ⟨hx, Double.le_of_lt hlt⟩
      next => exact ⟨by decide +kernel, by decide +kernel⟩

theorem Judgement.sound_of_accepted {c : FuserConfig Float} {s : Services Float}
    {d : Detection Float} {e : Estimate Float}
    (haccepted : (Judgement.of c s d).verdict = .ok (.accepted e)) : e.Sound := by
  obtain ⟨l, t, r, hpassed, hpose⟩ := passed_of_accepted haccepted
  obtain ⟨hstamp, hdistance, hfactor⟩ := estimate_parts (estimate_of_verdict hpassed haccepted)
  obtain ⟨hroot, hsign⟩ :=
    Double.sqrt_finite_not_lt_zero hpassed.finite (Double.isUnsigned_normSq d.pose.translation)
  have hfinite : e.distance.isFinite = true := by
    rw [hdistance]
    exact hroot
  obtain ⟨hscale, hone⟩ := Covariance.factor_bounds hfinite hfactor
  constructor
  case stamp =>
    rw [hstamp]
    exact Double.isFinite_of_sub hpassed.ageFinite
  case pose =>
    rw [hpose]
    exact Transform.finite_of_isFinite hpassed.poseFinite
  case distance_finite => exact hfinite
  case distance_nonneg =>
    rw [hdistance]
    exact Double.le_of_not_lt rfl hroot hsign
  case scale_finite => exact hscale
  case one_le_scale => exact hone

end Doubles

/-! ## Exact arithmetic -/

noncomputable section

def Vec3.toEuclidean (v : Vec3 ℝ) : EuclideanSpace ℝ (Fin 3) :=
  (EuclideanSpace.equiv (Fin 3) ℝ).symm ![v.x, v.y, v.z]

theorem Vec3.norm_eq_norm (v : Vec3 ℝ) : v.norm = ‖v.toEuclidean‖ := by
  rw [EuclideanSpace.norm_eq, Fin.sum_univ_three]
  simp [norm, normSq, dot, toEuclidean, sq]

theorem Vec3.norm_sub_eq_dist (u v : Vec3 ℝ) :
    (u.sub v).norm = dist u.toEuclidean v.toEuclidean := by
  rw [norm_eq_norm, dist_eq_norm]
  congr 1
  ext i
  fin_cases i <;> simp [sub, toEuclidean]

/-- The estimate from a detection that was checked against a reference pose keeps the bounds. -/
structure Estimate.WithinBounds (c : Config) (d : Detection ℝ) (r : ReferencePose ℝ)
    (e : Estimate ℝ) : Prop where
  distance_eq : e.distance = ‖d.pose.translation.toEuclidean‖
  distance_le : e.distance ≤ Binary.value c.distance.value
  apart_le : dist e.position.toEuclidean r.position.toEuclidean ≤ Binary.value c.position.value
  age_le : e.stamp - r.stamp ≤ Binary.value c.time.value

/-- A comparison of squares is one of the distances, for a bound that is not negative. -/
theorem Gate.sqrt_le_of_limitSq {bound limit distanceSq : ℝ} (hbound : 0 ≤ bound)
    (hlimit : limitSq bound = .ok limit) (hwithin : Scalar.lt limit distanceSq = false) :
    Real.sqrt distanceSq ≤ bound := by
  have hsquare : limit = bound * bound := by
    simpa [limitSq, pow_two, eq_comm] using hlimit
  have hle : distanceSq ≤ bound ^ 2 := by
    rw [sq, ← hsquare]
    simpa using hwithin
  calc
    Real.sqrt distanceSq ≤ Real.sqrt (bound ^ 2) := Real.sqrt_le_sqrt hle
    _ = bound := Real.sqrt_sq hbound

theorem Judgement.withinBounds_of_accepted {σ : Type} {c : Config} {name : String}
    {frames : String → String → FrameReply ℝ} {publish : Publisher σ ℝ} {solver : PoseSolver ℝ}
    (hdistance : c.distance.IsPositive) {s : Services ℝ} {d : Detection ℝ} {e : Estimate ℝ}
    (haccepted : (Judgement.of (Setup.ofConfig c name frames publish solver).fuser s d).verdict =
      .ok (.accepted e)) :
    ∃ r, s.reference = some r ∧ e.WithinBounds c d r := by
  obtain ⟨l, t, r, hpassed, hpose⟩ := passed_of_accepted haccepted
  obtain ⟨hstamp, hroot, _⟩ := estimate_parts (estimate_of_verdict hpassed haccepted)
  obtain ⟨limit, hlimit, hnear⟩ := hpassed.limit
  have hbound : 0 ≤ Binary.value c.distance.value :=
    Double.value_nonneg hdistance.finite hdistance.above
  refine ⟨r, hpassed.reference, ?_⟩
  constructor
  case distance_eq => exact hroot.trans (Vec3.norm_eq_norm d.pose.translation)
  case distance_le =>
    rw [hroot]
    exact Gate.sqrt_le_of_limitSq hbound hlimit hnear
  case apart_le =>
    have happart := hpassed.apartWithin
    rw [← hpose, Vec3.norm_sub_eq_dist] at happart
    exact not_lt.mp (of_decide_eq_false happart)
  case age_le =>
    rw [hstamp]
    exact not_lt.mp (of_decide_eq_false hpassed.ageWithin)

/-! ## Everything that is published -/

/-- What is published with a configuration: finite in doubles, over every session, and in exact
arithmetic within the bounds, in every use of a localizer. -/
structure PublishesWithin [Numerics Float] (c : Config) : Prop where
  sound : ∀ (σ : Type) (name : String) (frames : String → String → FrameReply Float)
    (publish : Publisher σ Float) (solver : PoseSolver Float) (published : σ)
    (us : List (Session.Use Float)),
    ∀ e ∈ Session.publishedBy (Setup.ofConfig c name frames publish solver) published us, e.Sound
  within : ∀ (σ : Type) (name : String) (frames : String → String → FrameReply ℝ)
    (publish : Publisher σ ℝ) (solver : PoseSolver ℝ) (l : Localizer σ ℝ) (u : Session.Use ℝ),
    ∀ e ∈ Session.publishedIn (Setup.ofConfig c name frames publish solver) l u,
      ∃ d ∈ u.detections (Setup.ofConfig c name frames publish solver) l,
        ∃ r, (u.services (Setup.ofConfig c name frames publish solver) l).reference = some r ∧
          e.WithinBounds c d r

theorem publishesWithin [Numerics Float] {v : Value} {c : Config}
    (hread : Config.ofDocument v = .ok c) :
    PublishesWithin c := by
  have hdistance : c.distance.IsPositive :=
    Config.isPositive_of_positiveOf (Config.readFrom_of_ofDocument hread).distance
  constructor
  case sound =>
    intro σ name frames publish solver published us e he
    obtain ⟨given, d, haccepted⟩ := Session.accepted_of_publishedBy _ published us e he
    exact Judgement.sound_of_accepted haccepted
  case within =>
    intro σ name frames publish solver l u e he
    obtain ⟨d, hd, haccepted⟩ := Session.accepted_of_publishedIn _ l u e he
    exact ⟨d, hd, Judgement.withinBounds_of_accepted hdistance haccepted⟩

open scoped OriginScene

/-- What a session at the origin publishes. -/
def originPublished (c : Config) : List (Estimate Float) :=
  Session.publishedBy (Setup.ofConfig c "localizer" OriginScene.frames OriginScene.counter
    OriginScene.noSolver) 0 Session.originUses

theorem publishesWithin_origin :
    ∃ c, Config.ofDocument (OriginScene.document 10) = .ok c ∧
      (originPublished c).length = 2 ∧ ∀ e ∈ originPublished c, e.Sound := by
  have hread : (Config.ofDocument (OriginScene.document 10)).toOption.any
      (fun c => (originPublished c).length = 2) = true := by
    decide +kernel
  cases hconfig : Config.ofDocument (OriginScene.document 10) with
  | error f =>
      rw [hconfig] at hread
      cases hread
  | ok c =>
      rw [hconfig] at hread
      have htwo : (originPublished c).length = 2 := of_decide_eq_true hread
      have hsound := (publishesWithin hconfig).sound Nat "localizer" OriginScene.frames
        OriginScene.counter OriginScene.noSolver 0 Session.originUses
      exact ⟨c, rfl, htwo, hsound⟩

end

end Fiducial
