import Fiducial.Config.Reader
import Fiducial.Proofs.Failures

/-!
# Configurations that are accepted

A configuration that is constructed has passed every check on the way, and each of its fields is
what was read from the field of the mapping, or from the default if the mapping has none.
-/

namespace Fiducial

/-- The number is finite and not at most zero. -/
structure Measure.IsPositive (m : Measure) : Prop where
  finite : m.value.isFinite = true
  above : ¬ m.value ≤ 0.0

namespace Config

/-- The value of a field, which is the default where the mapping has none. -/
def fieldOf (es : List (Value × Value)) (name : String) : Value :=
  (Value.lookup name es).getD (defaultOf name)

/-- How the fields of a configuration were read. -/
structure ReadFrom (es : List (Value × Value)) (c : Config) : Prop where
  targets : idsOf (fieldOf es "target_tag_ids") = .ok c.targets
  targets_ne : c.targets.isEmpty = false
  covariance : numbersOf (fieldOf es "base_covariance") = .ok c.covariance.entries
  covariance_finite : c.covariance.entries.all Float.isFinite = true
  distance : positiveOf "distance_threshold_m" (fieldOf es "distance_threshold_m") =
    .ok c.distance
  time : positiveOf "ekf_time_tolerance_s" (fieldOf es "ekf_time_tolerance_s") = .ok c.time
  position : positiveOf "ekf_position_tolerance_m" (fieldOf es "ekf_position_tolerance_m") =
    .ok c.position
  markerSize : positiveOf "marker_size_m" (fieldOf es "marker_size_m") = .ok c.markerSize
  maxError : positiveOf "max_reproj_rmse_px" (fieldOf es "max_reproj_rmse_px") = .ok c.maxError
  detectionMode : DetectionMode.ofValue (fieldOf es "detection_mode") = .ok c.detectionMode
  minMarkerSize : notNegativeOf (fieldOf es "min_marker_size") = .ok c.minMarkerSize
  mapFrame : c.mapFrame = fieldOf es "map_frame"
  mapFrame_name : ∃ name, c.mapFrame.name = .ok name ∧ Text.isBlank name = false
  baseFrame : c.baseFrame = fieldOf es "base_frame"
  baseFrame_name : ∃ name, c.baseFrame.name = .ok name ∧ Text.isBlank name = false
  transforms : transformsOf (fieldOf es "static_transforms") = .ok c.transforms

theorem ofList_ok_iff {xs : List Float} {c : Covariance Float} :
    Covariance.ofList xs = .ok c ↔ c.entries = xs := by
  unfold Covariance.ofList
  split
  next hsize =>
    constructor
    · rintro ⟨⟩
      rfl
    · rintro rfl
      rfl
  next hsize =>
    refine iff_of_false nofun ?_
    rintro rfl
    exact hsize c.length_eq

theorem readFrom_of_construct {es : List (Value × Value)} {c : Config}
    (hconstruct : construct es = .ok c) : ReadFrom es c := by
  unfold construct at hconstruct
  dsimp only at hconstruct
  obtain ⟨targets, htargets, hconstruct⟩ := exists_of_bind_ok hconstruct
  obtain ⟨numbers, hnumbers, hconstruct⟩ := exists_of_bind_ok hconstruct
  obtain ⟨mode, hmode, hconstruct⟩ := exists_of_bind_ok hconstruct
  obtain ⟨transforms, htransforms, hconstruct⟩ := exists_of_bind_ok hconstruct
  split at hconstruct
  next => cases hconstruct
  next hne =>
    obtain ⟨covariance, hcovariance, hconstruct⟩ := exists_of_bind_ok hconstruct
    split at hconstruct
    next => cases hconstruct
    next hfinite =>
      obtain ⟨markerSize, hmarkerSize, hconstruct⟩ := exists_of_bind_ok hconstruct
      obtain ⟨maxError, hmaxError, hconstruct⟩ := exists_of_bind_ok hconstruct
      obtain ⟨distance, hdistance, hconstruct⟩ := exists_of_bind_ok hconstruct
      obtain ⟨time, htime, hconstruct⟩ := exists_of_bind_ok hconstruct
      obtain ⟨position, hposition, hconstruct⟩ := exists_of_bind_ok hconstruct
      obtain ⟨minMarkerSize, hminMarkerSize, hconstruct⟩ := exists_of_bind_ok hconstruct
      obtain ⟨mapName, hmapName, hconstruct⟩ := exists_of_bind_ok hconstruct
      split at hconstruct
      next => cases hconstruct
      next hmapBlank =>
        obtain ⟨baseName, hbaseName, hconstruct⟩ := exists_of_bind_ok hconstruct
        split at hconstruct
        next => cases hconstruct
        next hbaseBlank =>
          cases hconstruct
          constructor
          case targets => exact htargets
          case targets_ne => exact Bool.eq_false_of_not_eq_true hne
          case covariance =>
            rw [ofList_ok_iff.mp hcovariance]
            exact hnumbers
          case covariance_finite => simpa using hfinite
          case distance => exact hdistance
          case time => exact htime
          case position => exact hposition
          case markerSize => exact hmarkerSize
          case maxError => exact hmaxError
          case detectionMode => exact hmode
          case minMarkerSize => exact hminMarkerSize
          case mapFrame => rfl
          case mapFrame_name => exact ⟨mapName, hmapName, Bool.eq_false_of_not_eq_true hmapBlank⟩
          case baseFrame => rfl
          case baseFrame_name =>
            exact ⟨baseName, hbaseName, Bool.eq_false_of_not_eq_true hbaseBlank⟩
          case transforms => exact htransforms

theorem construct_of_ofEntries {es : List (Value × Value)} {c : Config}
    (hentries : ofEntries es = .ok c) : construct es = .ok c := by
  unfold ofEntries at hentries
  split at hentries
  next => cases hentries
  next =>
    split at hentries
    next =>
      cases hconstruct : construct es with
      | ok c' =>
          rw [hconstruct] at hentries
          cases hentries
          rfl
      | error f =>
          rw [hconstruct] at hentries
          cases hentries
    next => cases hentries

/-- The mapping that a document stands for. -/
def entriesOfDocument : Value → List (Value × Value)
  | .map es => es
  | _ => []

theorem readFrom_of_ofDocument {v : Value} {c : Config} (hread : ofDocument v = .ok c) :
    ReadFrom (entriesOfDocument v) c := by
  cases v with
  | null => exact readFrom_of_construct (construct_of_ofEntries hread)
  | map es => exact readFrom_of_construct (construct_of_ofEntries hread)
  | _ => cases hread

/-! ## Bounds -/

theorem measure_ok_iff {v : Value} {m : Measure} : Measure.ofValue v = .ok m ↔ m.given = v := by
  unfold Measure.ofValue
  obtain ⟨given, value, reads⟩ := m
  split
  next x hx =>
    constructor
    · rintro ⟨⟩
      rfl
    · rintro rfl
      obtain rfl : x = value := Except.ok.inj (hx.symm.trans reads)
      rfl
  next f hf =>
    refine iff_of_false nofun ?_
    rintro rfl
    cases reads.symm.trans hf

theorem positiveOf_ok_iff {field : String} {v : Value} {m : Measure} :
    positiveOf field v = .ok m ↔ m.given = v ∧ m.IsPositive := by
  unfold positiveOf
  rw [bind_ok_iff]
  constructor
  · rintro ⟨read, hread, hchecked⟩
    split at hchecked
    next => cases hchecked
    next hbounds =>
      cases hchecked
      obtain ⟨hfinite, habove⟩ : m.value.isFinite = true ∧ ¬ m.value ≤ 0.0 := by
        simpa using hbounds
      exact ⟨measure_ok_iff.mp hread, hfinite, habove⟩
  · rintro ⟨hgiven, hpositive⟩
    refine ⟨m, measure_ok_iff.mpr hgiven, ?_⟩
    rw [if_neg (by simp [hpositive.finite, hpositive.above])]
    rfl

theorem isPositive_of_positiveOf {name : String} {v : Value} {m : Measure}
    (hpositive : positiveOf name v = .ok m) : m.IsPositive :=
  (positiveOf_ok_iff.mp hpositive).2

end Config
end Fiducial
