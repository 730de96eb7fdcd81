import Fiducial.Proofs.AcceptedConfigs

/-!
# The checks of a configuration

To construct a configuration is to make checks in a fixed order.  The first check that fails decides
the fault, whatever is wrong with the fields that come after it, and if none fails there is a
configuration.  So a statement about all that can go wrong is one about each check by itself.
-/

namespace Fiducial
namespace Config

/-! ## Computations without their results -/

section Results

variable {β γ : Type}

/-- Whether a computation fails, and with which fault. -/
def outcome (x : Except Fault β) : Except Fault Unit := x.map fun _ => ()

theorem outcome_error_iff {x : Except Fault β} {f : Fault} :
    outcome x = .error f ↔ x = .error f := by
  cases x <;> simp [outcome, Except.map]

theorem outcome_ok_iff {x : Except Fault β} : outcome x = .ok () ↔ ∃ b, x = .ok b := by
  cases x <;> simp [outcome, Except.map]

/-- A step of a computation is the check that fails as it does, before the checks of the rest. -/
theorem outcome_bind {x : Except Fault β} {g : β → Except Fault γ} {check rest : Except Fault Unit}
    (hcheck : outcome x = check) (hrest : ∀ b, x = .ok b → outcome (g b) = rest) :
    outcome (x >>= g) = check >>= fun _ => rest := by
  subst hcheck
  cases x with
  | error f => rfl
  | ok b => exact hrest b rfl

theorem outcome_guard {c : Prop} [Decidable c] {f : Fault} {next : Unit → Except Fault β}
    {check rest : Except Fault Unit} (hcheck : (if c then .error f else .ok ()) = check)
    (hrest : outcome (next ()) = rest) :
    outcome (if c then throw f >>= next else next ()) = check >>= fun _ => rest := by
  subst hcheck
  split
  · rfl
  · exact hrest

theorem outcome_bind_guard {x : Except Fault β} {c : β → Prop} [DecidablePred c] {f : Fault}
    {next : Unit → Except Fault γ} {rest : Except Fault Unit} (hrest : outcome (next ()) = rest) :
    outcome (x >>= fun b => if c b then throw f >>= next else next ()) =
      (x >>= fun b => if c b then throw f else pure ()) >>= fun _ => rest := by
  cases x with
  | error e => rfl
  | ok b => exact outcome_guard rfl hrest

theorem forM_error_iff {run : β → Except Fault Unit} {checks : List β} {f : Fault} :
    forM checks run = .error f ↔
      ∃ before c after, checks = before ++ c :: after ∧ (∀ b ∈ before, run b = .ok ()) ∧
        run c = .error f := by
  induction checks with
  | nil =>
      constructor
      · rintro ⟨⟩
      · rintro ⟨before, c, after, hsplit, _⟩
        simp at hsplit
  | cons check checks ih =>
      rw [List.forM_cons, bind_error_iff, ih]
      constructor
      · rintro (hfails | ⟨⟨⟩, hpasses, before, c, after, rfl, hbefore, hfails⟩)
        · exact ⟨[], check, checks, rfl, List.forall_mem_nil _, hfails⟩
        · exact ⟨check :: before, c, after, rfl, List.forall_mem_cons.mpr ⟨hpasses, hbefore⟩,
            hfails⟩
      · rintro ⟨before, c, after, hsplit, hbefore, hfails⟩
        cases before with
        | nil =>
            cases hsplit
            exact .inl hfails
        | cons b before =>
            cases hsplit
            have hfirst := List.forall_mem_cons.mp hbefore
            exact .inr ⟨(), hfirst.1, before, c, after, rfl, hfirst.2, hfails⟩

theorem forM_ok_iff {run : β → Except Fault Unit} {checks : List β} :
    forM checks run = .ok () ↔ ∀ c ∈ checks, run c = .ok () := by
  induction checks with
  | nil => simp [pure, Except.pure]
  | cons check checks ih =>
      rw [List.forM_cons, List.forall_mem_cons, ← ih]
      cases run check <;> simp [bind, Except.bind]

end Results

/-! ## Checks in order -/

/-- The numbers that must be finite and positive, in the order in which they are looked at. -/
def positiveFields : List String :=
  ["marker_size_m", "max_reproj_rmse_px", "distance_threshold_m", "ekf_time_tolerance_s",
    "ekf_position_tolerance_m"]

def frameFields : List String := ["map_frame", "base_frame"]

inductive Check where
  | targets
  | covariance
  | detectionMode
  | transforms
  | anyTarget
  | covarianceSize
  | covarianceFinite
  | positive (field : String)
  | minMarkerSize
  | frame (field : String)

namespace Check

def all : List Check :=
  [targets, covariance, detectionMode, transforms, anyTarget, covarianceSize, covarianceFinite] ++
    (positiveFields.map positive ++ (minMarkerSize :: frameFields.map frame))

def run (es : List (Value × Value)) : Check → Except Fault Unit
  | targets => outcome (idsOf (fieldOf es "target_tag_ids"))
  | covariance => outcome (numbersOf (fieldOf es "base_covariance"))
  | detectionMode => outcome (DetectionMode.ofValue (fieldOf es "detection_mode"))
  | transforms => outcome (transformsOf (fieldOf es "static_transforms"))
  | anyTarget => do
    if (← idsOf (fieldOf es "target_tag_ids")).isEmpty then throw .noTargets
  | covarianceSize => do
    outcome (Covariance.ofList (← numbersOf (fieldOf es "base_covariance")))
  | covarianceFinite => do
    if !(← numbersOf (fieldOf es "base_covariance")).all Float.isFinite then
      throw .covarianceNotFinite
  | positive field => outcome (positiveOf field (fieldOf es field))
  | minMarkerSize => outcome (notNegativeOf (fieldOf es "min_marker_size"))
  | frame field => do
    if Text.isBlank (← (fieldOf es field).name) then throw .blankFrame

end Check

/-! ## What is constructed -/

theorem outcome_construct (es : List (Value × Value)) :
    outcome (construct es) = forM Check.all (Check.run es) := by
  unfold construct
  extract_lets field positive mapFrame baseFrame
  -- Each line of the construction is one check.  The guards look at ids and numbers that were read
  -- in earlier lines, and the checks read them again.
  refine outcome_bind rfl fun ids hids => ?_
  have hids' : idsOf (fieldOf es "target_tag_ids") = .ok ids := hids
  refine outcome_bind rfl fun numbers hnumbers => ?_
  have hnumbers' : numbersOf (fieldOf es "base_covariance") = .ok numbers := hnumbers
  refine outcome_bind rfl fun mode _ => ?_
  refine outcome_bind rfl fun transforms _ => ?_
  extract_lets checked
  refine outcome_guard ?_ ?_
  · simp only [Check.run, hids']
    rfl
  unfold checked
  refine outcome_bind ?_ fun covariance hcovariance => ?_
  · simp only [Check.run, hnumbers']
    rfl
  extract_lets bounded
  refine outcome_guard ?_ ?_
  · simp only [Check.run, hnumbers', ofList_ok_iff.mp hcovariance]
    rfl
  unfold bounded
  refine outcome_bind rfl fun markerSize _ => ?_
  refine outcome_bind rfl fun maxError _ => ?_
  refine outcome_bind rfl fun distance _ => ?_
  refine outcome_bind rfl fun time _ => ?_
  refine outcome_bind rfl fun position _ => ?_
  refine outcome_bind rfl fun minMarkerSize _ => ?_
  refine outcome_bind_guard ?_
  refine outcome_bind_guard ?_
  rfl

/-- The first check that fails gives the fault. -/
theorem construct_error_iff {es : List (Value × Value)} {f : Fault} :
    construct es = .error f ↔ ∃ before check after, Check.all = before ++ check :: after ∧
      (∀ c ∈ before, c.run es = .ok ()) ∧ check.run es = .error f := by
  rw [← outcome_error_iff, outcome_construct, forM_error_iff]

theorem exists_construct_iff {es : List (Value × Value)} :
    (∃ c, construct es = .ok c) ↔ ∀ check ∈ Check.all, check.run es = .ok () := by
  rw [← outcome_ok_iff, outcome_construct, forM_ok_iff]

end Config
end Fiducial
