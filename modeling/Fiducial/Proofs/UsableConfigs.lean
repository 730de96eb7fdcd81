import Fiducial.Proofs.ConfigChecks
import Fiducial.Proofs.FiniteDoubles

/-!
# What a configuration promises

A configuration is constructed exactly if each of its checks finds what it asks for, and then the
gates and the covariance can be made from it at any time: every bound reads again as the finite
positive double that was checked, and the covariance has its thirty-six finite entries.

The smallest size of a marker is the one number that is compared without a look at whether it is
finite.  It need only not be below zero, and what is not a number is not below zero either.
-/

namespace Fiducial

/-! ## Measures -/

theorem Measure.isPositive_iff {m : Measure} :
    m.IsPositive ↔ m.value.isFinite = true ∧ 0 < m.value := by
  constructor
  · rintro ⟨hfinite, habove⟩
    exact ⟨hfinite, (Double.lt_iff_not_le rfl hfinite).mpr habove⟩
  · rintro ⟨hfinite, hpositive⟩
    exact ⟨hfinite, (Double.lt_iff_not_le rfl hfinite).mp hpositive⟩

namespace Config

variable {es : List (Value × Value)} {c : Config}

theorem notNegativeOf_ok_iff {v : Value} {m : Measure} :
    notNegativeOf v = .ok m ↔ m.given = v ∧ (0 ≤ m.value ∨ m.value.isNaN = true) := by
  -- To be not below zero is to be at least zero only for numbers.
  have hnot (x : Float) : ¬ x < 0.0 ↔ 0 ≤ x ∨ x.isNaN = true := by
    have habove : Scalar.lt x 0 = false ↔ 0 ≤ x ∨ x.isNaN = true := Double.not_above_iff rfl
    rw [← habove]
    exact (decide_eq_false_iff_not (p := x < 0.0)).symm
  unfold notNegativeOf
  rw [bind_ok_iff]
  constructor
  · rintro ⟨read, hread, hchecked⟩
    split at hchecked
    next => cases hchecked
    next hbounds =>
      cases hchecked
      exact ⟨measure_ok_iff.mp hread, (hnot _).mp hbounds⟩
  · rintro ⟨hgiven, hbounds⟩
    refine ⟨m, measure_ok_iff.mpr hgiven, ?_⟩
    rw [if_neg ((hnot _).mpr hbounds)]
    rfl

/-! ## Modes, covariances and names -/

theorem detectionMode_ok_iff {v : Value} {mode : DetectionMode} :
    DetectionMode.ofValue v = .ok mode ↔
      ∃ text, v.name = .ok text ∧ mode.name = Text.trim text := by
  unfold DetectionMode.ofValue
  cases hname : v.name with
  | error f => simp
  | ok text =>
      have hmode : DetectionMode.all.find? (·.name = Text.trim text) = some mode ↔
          mode.name = Text.trim text := by
        constructor
        · intro hfound
          simpa using List.find?_some hfound
        · intro hmode
          rw [← hmode]
          cases mode <;> rfl
      simp only [Except.ok.injEq, exists_eq_left']
      rw [← hmode]
      split
      next found hfound =>
        rw [hfound]
        simp
      next hnone =>
        rw [hnone]
        simp

theorem exists_covariance_iff {xs : List Float} :
    (∃ c, Covariance.ofList xs = .ok c) ↔ xs.length = 36 := by
  simp only [ofList_ok_iff]
  constructor
  · rintro ⟨c, rfl⟩
    exact c.length_eq
  · exact fun hsize => ⟨⟨xs, hsize⟩, rfl⟩

theorem guard_ok_iff {p : Prop} [Decidable p] {f : Fault} :
    (if p then throw f else pure () : Except Fault Unit) = .ok () ↔ ¬ p := by
  split
  next hp => exact ⟨(nomatch ·), fun hnot => absurd hp hnot⟩
  next hp => exact ⟨fun _ => hp, fun _ => rfl⟩

/-! ## What each check asks for -/

/-- What a check asks of the mapping. -/
def Check.Holds (es : List (Value × Value)) : Check → Prop
  | targets => ∃ ids, idsOf (fieldOf es "target_tag_ids") = .ok ids
  | covariance => ∃ xs, numbersOf (fieldOf es "base_covariance") = .ok xs
  | detectionMode => ∃ (mode : DetectionMode) (text : String),
      (fieldOf es "detection_mode").name = .ok text ∧ mode.name = Text.trim text
  | transforms => ∃ ts, transformsOf (fieldOf es "static_transforms") = .ok ts
  | anyTarget => ∃ ids, idsOf (fieldOf es "target_tag_ids") = .ok ids ∧ ids ≠ []
  | covarianceSize => ∃ xs, numbersOf (fieldOf es "base_covariance") = .ok xs ∧ xs.length = 36
  | covarianceFinite => ∃ xs, numbersOf (fieldOf es "base_covariance") = .ok xs ∧
      ∀ x ∈ xs, x.isFinite = true
  | positive field => ∃ x, (fieldOf es field).toFloat = .ok x ∧ x.isFinite = true ∧ 0 < x
  | minMarkerSize => ∃ x, (fieldOf es "min_marker_size").toFloat = .ok x ∧
      (0 ≤ x ∨ x.isNaN = true)
  | frame field => ∃ text, (fieldOf es field).name = .ok text ∧ Text.isBlank text = false

theorem exists_measure_iff {v : Value} {P : Float → Prop} :
    (∃ m : Measure, m.given = v ∧ P m.value) ↔ ∃ x, v.toFloat = .ok x ∧ P x := by
  constructor
  · rintro ⟨m, rfl, hvalue⟩
    exact ⟨m.value, m.reads, hvalue⟩
  · rintro ⟨x, hreads, hvalue⟩
    exact ⟨⟨v, x, hreads⟩, rfl, hvalue⟩

theorem Check.run_ok_iff (check : Check) : check.run es = .ok () ↔ check.Holds es := by
  cases check with
  | targets => exact outcome_ok_iff
  | covariance => exact outcome_ok_iff
  | transforms => exact outcome_ok_iff
  | detectionMode =>
      simp only [run, Holds, outcome_ok_iff, detectionMode_ok_iff]
  | anyTarget =>
      simp only [run, Holds, bind_ok_iff, guard_ok_iff, List.isEmpty_iff]
  | covarianceSize =>
      simp only [run, Holds, bind_ok_iff, outcome_ok_iff, exists_covariance_iff]
  | covarianceFinite =>
      simp only [run, Holds, bind_ok_iff, guard_ok_iff]
      simp
  | positive field =>
      simp only [run, Holds, outcome_ok_iff, positiveOf_ok_iff, Measure.isPositive_iff]
      exact exists_measure_iff (P := fun x => x.isFinite = true ∧ 0 < x)
  | minMarkerSize =>
      simp only [run, Holds, outcome_ok_iff, notNegativeOf_ok_iff]
      exact exists_measure_iff (P := fun x => 0 ≤ x ∨ x.isNaN = true)
  | frame field =>
      simp only [run, Holds, bind_ok_iff, guard_ok_iff, Bool.not_eq_true]

theorem exists_construct_iff_holds {es : List (Value × Value)} :
    (∃ c, construct es = .ok c) ↔ ∀ check ∈ Check.all, check.Holds es := by
  simp only [exists_construct_iff, Check.run_ok_iff]

/-! ## What is made of a configuration -/

/-- The gates as they are read from what was given for them. -/
def gatesGiven (c : Config) : Except Fault (GateConfig Float) := do
  let distance ← c.distance.given.toFloat
  let time ← c.time.given.toFloat
  let position ← c.position.given.toFloat
  return ⟨c.targets, distance, time, position⟩

theorem gatesGiven_eq (c : Config) : c.gatesGiven = .ok c.gates := by
  unfold gatesGiven
  rw [c.distance.reads, c.time.reads, c.position.reads]
  rfl

/-- The measure is the finite positive double that the value stands for. -/
structure IsPositiveFrom (v : Value) (m : Measure) : Prop where
  given : m.given = v
  reads : v.toFloat = .ok m.value
  finite : m.value.isFinite = true
  positive : 0 < m.value

/-- A text that is not blank is read from the value. -/
def IsNamed (v : Value) : Prop := ∃ text, v.name = .ok text ∧ Text.isBlank text = false

/-- A configuration of the mapping keeps to all bounds, and gates and covariance are made of it. -/
structure Usable (es : List (Value × Value)) (c : Config) : Prop where
  whitelist : ∃ vs, (fieldOf es "target_tag_ids").items = .ok vs ∧
    ∀ id, id ∈ c.gates.whitelist ↔ ∃ v ∈ vs, v.name = .ok id
  whitelist_ne : c.gates.whitelist ≠ []
  entries : ∃ vs, (fieldOf es "base_covariance").items = .ok vs ∧
    vs.mapM Value.toFloat = .ok c.covariance.entries
  entries_length : c.covariance.entries.length = 36
  entries_finite : ∀ x ∈ c.covariance.entries, x.isFinite = true
  markerSize : IsPositiveFrom (fieldOf es "marker_size_m") c.markerSize
  maxError : IsPositiveFrom (fieldOf es "max_reproj_rmse_px") c.maxError
  distance : IsPositiveFrom (fieldOf es "distance_threshold_m") c.distance
  time : IsPositiveFrom (fieldOf es "ekf_time_tolerance_s") c.time
  position : IsPositiveFrom (fieldOf es "ekf_position_tolerance_m") c.position
  minMarkerSize : c.minMarkerSize.given = fieldOf es "min_marker_size" ∧
    (fieldOf es "min_marker_size").toFloat = .ok c.minMarkerSize.value
  /-- What is not a number passes as well. -/
  minMarkerSize_bound : 0 ≤ c.minMarkerSize.value ∨ c.minMarkerSize.value.isNaN = true
  mapFrame : c.mapFrame = fieldOf es "map_frame" ∧ IsNamed c.mapFrame
  baseFrame : c.baseFrame = fieldOf es "base_frame" ∧ IsNamed c.baseFrame
  detectionMode : ∃ text, (fieldOf es "detection_mode").name = .ok text ∧
    c.detectionMode.name = Text.trim text
  gates : c.gatesGiven = .ok ⟨c.targets, c.distance.value, c.time.value, c.position.value⟩
  covariance : Covariance.ofList c.covariance.entries = .ok c.covariance

theorem isPositiveFrom_of_positiveOf {field : String} {v : Value} {m : Measure}
    (hpositive : positiveOf field v = .ok m) : IsPositiveFrom v m := by
  obtain ⟨rfl, hbounds⟩ := positiveOf_ok_iff.mp hpositive
  obtain ⟨hfinite, habove⟩ := Measure.isPositive_iff.mp hbounds
  exact ⟨rfl, m.reads, hfinite, habove⟩

theorem usable_of_readFrom (hread : ReadFrom es c) : Usable es c := by
  constructor
  case whitelist =>
    obtain ⟨vs, hvs, hnames⟩ := exists_of_bind_ok hread.targets
    exact ⟨vs, hvs, mem_iff_of_mapM_ok hnames⟩
  case whitelist_ne => exact List.isEmpty_eq_false_iff.mp hread.targets_ne
  case entries => exact exists_of_bind_ok hread.covariance
  case entries_length => exact c.covariance.length_eq
  case entries_finite => exact List.all_eq_true.mp hread.covariance_finite
  case markerSize => exact isPositiveFrom_of_positiveOf hread.markerSize
  case maxError => exact isPositiveFrom_of_positiveOf hread.maxError
  case distance => exact isPositiveFrom_of_positiveOf hread.distance
  case time => exact isPositiveFrom_of_positiveOf hread.time
  case position => exact isPositiveFrom_of_positiveOf hread.position
  case minMarkerSize =>
    obtain ⟨hgiven, _⟩ := notNegativeOf_ok_iff.mp hread.minMarkerSize
    exact ⟨hgiven, hgiven ▸ c.minMarkerSize.reads⟩
  case minMarkerSize_bound => exact (notNegativeOf_ok_iff.mp hread.minMarkerSize).2
  case mapFrame => exact ⟨hread.mapFrame, hread.mapFrame_name⟩
  case baseFrame => exact ⟨hread.baseFrame, hread.baseFrame_name⟩
  case detectionMode => exact detectionMode_ok_iff.mp hread.detectionMode
  case gates => exact gatesGiven_eq c
  case covariance => exact ofList_ok_iff.mpr rfl

/-- A mapping has a configuration exactly if every check finds what it asks for, and what is made
is usable. -/
theorem construct_usable (es : List (Value × Value)) :
    ((∃ c, construct es = .ok c) ↔ ∀ check ∈ Check.all, check.Holds es) ∧
      ∀ c, construct es = .ok c → Usable es c :=
  ⟨exists_construct_iff_holds, fun _ hconstruct =>
    usable_of_readFrom (readFrom_of_construct hconstruct)⟩

/-- A mapping whose smallest size of a marker is not a number. -/
def unsizedEntries : List (Value × Value) :=
  [(.str "target_tag_ids", .list [.str "5"]),
    (.str "base_covariance", .list (List.replicate 36 (.float 1))),
    (.str "distance_threshold_m", .float 10), (.str "ekf_time_tolerance_s", .float 1),
    (.str "ekf_position_tolerance_m", .float 1), (.str "min_marker_size", .float Binary.nan)]

theorem construct_usable_unsized :
    ∃ c, construct unsizedEntries = .ok c ∧ Usable unsizedEntries c ∧
      c.minMarkerSize.value.isNaN = true ∧ ¬ 0 ≤ c.minMarkerSize.value := by
  have hok : (construct unsizedEntries).isOk = true := by decide +kernel
  obtain ⟨c, hc⟩ := exists_of_isOk hok
  have husable := (construct_usable unsizedEntries).2 c hc
  have hvalue : c.minMarkerSize.value = Binary.nan := by
    have hreads := husable.minMarkerSize.2
    exact (Except.ok.inj hreads).symm
  have hnan : Binary.nan.isNaN = true ∧ ¬ 0 ≤ Binary.nan := by decide +kernel
  exact ⟨c, hc, husable, hvalue ▸ hnan⟩

end Config
end Fiducial
