import Fiducial.Proofs.ConfigRefusals

/-!
# A configuration that is written and read again

What a configuration was read from may be spelled in many ways: ids as numbers, a detection mode
between blanks, transforms without the fields that have a default.  The entries of the configuration
itself have one spelling for each field, and every reader gives back what it is given in that
spelling.  So reading the entries again gives the same configuration, in whatever order they stand.
-/

namespace Fiducial

/-! ## Entries in another order -/

namespace Value

theorem lookup_eq_some_iff {es : List (Value × Value)} (hkeys : (es.map (·.1)).Nodup)
    (name : String) (v : Value) : lookup name es = some v ↔ (.str name, v) ∈ es := by
  induction es with
  | nil => simp [lookup]
  | cons e es ih =>
      obtain ⟨k, w⟩ := e
      rw [List.map_cons, List.nodup_cons] at hkeys
      rw [List.mem_cons]
      by_cases hname : k = .str name
      · subst hname
        have hrest : (.str name, v) ∉ es := fun hmem =>
          hkeys.1 (List.mem_map_of_mem (f := (·.1)) hmem)
        simp [lookup, hrest, eq_comm]
      · have hskip : lookup name ((k, w) :: es) = lookup name es := by
          cases k with
          | str s =>
              have hs : s ≠ name := fun hs => hname (congrArg Value.str hs)
              rw [lookup, if_neg hs]
          | _ => rfl
        rw [hskip, ih hkeys.2]
        simp [Ne.symm hname]

/-- A field is found wherever it stands, if no key comes twice. -/
theorem lookup_perm {es es' : List (Value × Value)} (hperm : es'.Perm es)
    (hkeys : (es.map (·.1)).Nodup) (name : String) : lookup name es' = lookup name es := by
  have hkeys' : (es'.map (·.1)).Nodup := (hperm.map (·.1)).nodup_iff.mpr hkeys
  apply Option.ext
  intro v
  rw [lookup_eq_some_iff hkeys, lookup_eq_some_iff hkeys', hperm.mem_iff]

end Value

namespace Config

variable {es es' : List (Value × Value)} {c : Config}

theorem construct_congr (hlookup : ∀ name, Value.lookup name es' = Value.lookup name es) :
    construct es' = construct es := by
  unfold construct
  simp only [hlookup]

theorem missingFields_congr (hlookup : ∀ name, Value.lookup name es' = Value.lookup name es) :
    missingFields es' = missingFields es := by
  unfold missingFields
  simp only [hlookup]

theorem unknownKeys_perm (hperm : es'.Perm es) : (unknownKeys es').Perm (unknownKeys es) :=
  (hperm.map _).filter _

/-! ## From the fields to the configuration -/

theorem construct_of_readFrom (hread : ReadFrom es c) : construct es = .ok c := by
  obtain ⟨mapName, hmapName, hmapBlank⟩ := hread.mapFrame_name
  obtain ⟨baseName, hbaseName, hbaseBlank⟩ := hread.baseFrame_name
  rw [hread.mapFrame] at hmapName
  rw [hread.baseFrame] at hbaseName
  unfold construct
  refine bind_ok_iff.mpr ⟨_, hread.targets, ?_⟩
  refine bind_ok_iff.mpr ⟨_, hread.covariance, ?_⟩
  refine bind_ok_iff.mpr ⟨_, hread.detectionMode, ?_⟩
  refine bind_ok_iff.mpr ⟨_, hread.transforms, ?_⟩
  rw [if_neg (by simp [hread.targets_ne])]
  refine bind_ok_iff.mpr ⟨c.covariance, ofList_ok_iff.mpr rfl, ?_⟩
  rw [if_neg (by simp [hread.covariance_finite])]
  refine bind_ok_iff.mpr ⟨_, hread.markerSize, ?_⟩
  refine bind_ok_iff.mpr ⟨_, hread.maxError, ?_⟩
  refine bind_ok_iff.mpr ⟨_, hread.distance, ?_⟩
  refine bind_ok_iff.mpr ⟨_, hread.time, ?_⟩
  refine bind_ok_iff.mpr ⟨_, hread.position, ?_⟩
  refine bind_ok_iff.mpr ⟨_, hread.minMarkerSize, ?_⟩
  refine bind_ok_iff.mpr ⟨_, hmapName, ?_⟩
  rw [if_neg (by simp [hmapBlank])]
  refine bind_ok_iff.mpr ⟨_, hbaseName, ?_⟩
  rw [if_neg (by simp [hbaseBlank])]
  change Except.ok
    { c with mapFrame := fieldOf es "map_frame", baseFrame := fieldOf es "base_frame" } = _
  rw [← hread.mapFrame, ← hread.baseFrame]

theorem ofEntries_of_construct (hknown : unknownKeys es = []) (hcomplete : missingFields es = [])
    (hconstruct : construct es = .ok c) : ofEntries es = .ok c := by
  unfold ofEntries
  rw [unknownFault_of_known hknown, hcomplete, hconstruct]
  rfl

/-! ## Reading what was written -/

theorem idsOf_texts (ids : List String) : idsOf (.list (ids.map .str)) = .ok ids := by
  apply mapM_ok_iff.mpr
  rw [List.map_map]
  rfl

theorem numbersOf_floats (xs : List Float) : numbersOf (.list (xs.map .float)) = .ok xs := by
  apply mapM_ok_iff.mpr
  rw [List.map_map]
  rfl

theorem detectionMode_name (mode : DetectionMode) :
    DetectionMode.ofValue (.str mode.name) = .ok mode := by
  apply detectionMode_ok_iff.mpr
  have htrim : Text.trim mode.name = mode.name := by cases mode <;> decide
  exact ⟨mode.name, rfl, htrim.symm⟩

theorem transformOf_entries (t : StaticTransform) :
    transformOf (.map (transformEntries t)) = .ok t := rfl

theorem transformsOf_entries (ts : List StaticTransform) :
    transformsOf (.list (ts.map fun t => .map (transformEntries t))) = .ok ts := by
  apply mapM_ok_iff.mpr
  rw [List.map_map]
  exact List.map_congr_left fun t _ => transformOf_entries t

theorem positiveOf_given {field : String} {v : Value} {m : Measure}
    (hread : positiveOf field v = .ok m) : positiveOf field m.given = .ok m :=
  positiveOf_ok_iff.mpr ⟨rfl, isPositive_of_positiveOf hread⟩

theorem notNegativeOf_given {v : Value} {m : Measure} (hread : notNegativeOf v = .ok m) :
    notNegativeOf m.given = .ok m :=
  notNegativeOf_ok_iff.mpr ⟨rfl, (notNegativeOf_ok_iff.mp hread).2⟩

/-- Every field that passed its checks passes them again as it is written. -/
theorem readFrom_toEntries (hread : ReadFrom es c) : ReadFrom (toEntries c) c := by
  constructor
  case targets => exact idsOf_texts c.targets
  case targets_ne => exact hread.targets_ne
  case covariance => exact numbersOf_floats c.covariance.entries
  case covariance_finite => exact hread.covariance_finite
  case distance => exact positiveOf_given hread.distance
  case time => exact positiveOf_given hread.time
  case position => exact positiveOf_given hread.position
  case markerSize => exact positiveOf_given hread.markerSize
  case maxError => exact positiveOf_given hread.maxError
  case detectionMode => exact detectionMode_name c.detectionMode
  case minMarkerSize => exact notNegativeOf_given hread.minMarkerSize
  case mapFrame => rfl
  case mapFrame_name => exact hread.mapFrame_name
  case baseFrame => rfl
  case baseFrame_name => exact hread.baseFrame_name
  case transforms => exact transformsOf_entries c.transforms

theorem keys_toEntries (c : Config) : (toEntries c).map (·.1) = fields.map .str := rfl

theorem nodup_keys_toEntries (c : Config) : ((toEntries c).map (·.1)).Nodup := by
  rw [keys_toEntries]
  exact List.Nodup.map (fun _ _ => Value.str.inj) (by decide)

theorem unknownKeys_toEntries (c : Config) : unknownKeys (toEntries c) = [] := by
  unfold unknownKeys
  rw [keys_toEntries]
  decide

theorem missingFields_toEntries (c : Config) : missingFields (toEntries c) = [] := rfl

/-- The entries of a configuration that was read, in any order, are read as the same
configuration. -/
theorem ofEntries_written (hread : ofEntries es = .ok c) {written : List (Value × Value)}
    (hwritten : written.Perm (toEntries c)) : ofEntries written = .ok c := by
  have hlookup := Value.lookup_perm hwritten (nodup_keys_toEntries c)
  have hknown : unknownKeys written = [] := by
    have hperm := unknownKeys_perm hwritten
    rw [unknownKeys_toEntries] at hperm
    exact hperm.eq_nil
  have hcomplete : missingFields written = [] := by
    rw [missingFields_congr hlookup]
    exact missingFields_toEntries c
  have hconstruct : construct written = .ok c := by
    rw [construct_congr hlookup]
    exact construct_of_readFrom
      (readFrom_toEntries (readFrom_of_construct (construct_of_ofEntries hread)))
  exact ofEntries_of_construct hknown hcomplete hconstruct

/-- A mapping in which no field is spelled as the configuration spells it. -/
def looseEntries : List (Value × Value) :=
  [(.str "min_marker_size", .float Binary.nan),
    (.str "detection_mode", .str " DM_FAST\n"),
    (.str "target_tag_ids", .list [.int 5, .bool true]),
    (.str "base_covariance", .list (List.replicate 36 (.str " 1_0e-1 "))),
    (.str "static_transforms",
      .list [.list [.list [.str "child", .int 7], .list [.str "parent", .str "base_link"]]]),
    (.str "ekf_time_tolerance_s", .bool true), (.str "ekf_position_tolerance_m", .str "2.5"),
    (.str "distance_threshold_m", .int 10)]

theorem ofEntries_written_loose :
    ∃ c, ofEntries looseEntries = .ok c ∧ c.targets = ["5", "True"] ∧
      (toEntries c).reverse.Perm (toEntries c) ∧ ofEntries (toEntries c).reverse = .ok c := by
  obtain ⟨c, hread⟩ := exists_of_isOk (x := ofEntries looseEntries) (by decide +kernel)
  have hids : (idsOf (fieldOf looseEntries "target_tag_ids")).toOption = some ["5", "True"] := by
    decide +kernel
  rw [(readFrom_of_construct (construct_of_ofEntries hread)).targets] at hids
  have htargets : c.targets = ["5", "True"] := Option.some.inj hids
  have hperm := (toEntries c).reverse_perm
  exact ⟨c, hread, htargets, hperm, ofEntries_written hread hperm⟩

end Config
end Fiducial
