import Fiducial.Command
import Fiducial.Proofs.ConfigChecks
import Fiducial.Proofs.ConversionFaults

/-!
# How loading fails

A configuration is read from its document, and the fixed transforms and the landmarks are made from
data, by conversions that fail with faults that are reported, with the one exception of a whole
number beyond the doubles.  What is wrong with a landmark map or an event file itself is reported,
except that a directory is no event file.
-/

namespace Fiducial

namespace Config

/-! ## Configurations -/

theorem not_holdsHuge_defaultOf (name : String) : ¬ (defaultOf name).HoldsHuge := by
  unfold defaultOf
  rintro ⟨n, hn, _⟩
  split at hn
  case h_7 =>
    cases hn with
    | list hmem hx => cases hmem
  all_goals cases hn

theorem holdsHuge_of_field {name : String} {es : List (Value × Value)}
    (hv : ((Value.lookup name es).getD (defaultOf name)).HoldsHuge) : (Value.map es).HoldsHuge :=
  Value.holdsHuge_of_field (not_holdsHuge_defaultOf name) hv

theorem idsOf_misfit {huge : Prop} (v : Value) : FailsWith (Fault.IsMisfit huge) (idsOf v) := by
  unfold idsOf
  apply FailsWith.bind (Value.items_misfit v)
  intro vs _
  exact .mapM fun u _ => Value.name_misfit u

theorem numbersOf_misfit (v : Value) :
    FailsWith (Fault.IsMisfit v.HoldsHuge) (numbersOf v) := by
  unfold numbersOf
  apply FailsWith.bind (Value.items_misfit v)
  intro vs hvs
  apply FailsWith.mapM
  intro u hu
  exact (Value.toFloat_misfit u).mono fun _ hf => hf.mono (Value.holdsHuge_of_mem_items hvs hu)

theorem detectionMode_misfit {huge : Prop} (v : Value) :
    FailsWith (Fault.IsMisfit huge) (DetectionMode.ofValue v) := by
  unfold DetectionMode.ofValue
  cases hname : v.name with
  | error f => exact .error (Value.name_misfit v f hname)
  | ok name =>
      dsimp only
      split
      · exact .ok _
      · exact .error (.inl rfl)

theorem covariance_misfit {huge : Prop} (xs : List Float) :
    FailsWith (Fault.IsMisfit huge) (Covariance.ofList xs) := by
  unfold Covariance.ofList
  split
  · exact .ok _
  · exact .error (.inl rfl)

theorem measure_misfit (v : Value) :
    FailsWith (Fault.IsMisfit v.HoldsHuge) (Measure.ofValue v) := by
  have hfloat := Value.toFloat_misfit v
  unfold Measure.ofValue
  split
  next => exact .ok _
  next f hf => exact .error (hfloat f hf)

theorem positiveOf_misfit (field : String) (v : Value) :
    FailsWith (Fault.IsMisfit v.HoldsHuge) (positiveOf field v) :=
  .bind (measure_misfit v) fun _ _ => .ite (.error (.inl rfl)) (.ok _)

theorem notNegativeOf_misfit (v : Value) :
    FailsWith (Fault.IsMisfit v.HoldsHuge) (notNegativeOf v) :=
  .bind (measure_misfit v) fun _ _ => .ite (.error (.inl rfl)) (.ok _)

theorem pairOf_misfit {huge : Prop} (v : Value) : FailsWith (Fault.IsMisfit huge) (pairOf v) := by
  unfold pairOf
  split
  · exact .error (.inr (.inl rfl))
  · exact .ite (.ok _) (.error (.inr (.inl rfl)))
  · exact .error (.inl rfl)

theorem entriesOf_misfit {huge : Prop} (v : Value) :
    FailsWith (Fault.IsMisfit huge) (entriesOf v) := by
  unfold entriesOf
  split
  · exact .ok _
  · apply FailsWith.bind (Value.items_misfit _)
    intro vs _
    apply FailsWith.bind (.mapM fun u _ => pairOf_misfit u)
    exact fun _ _ => .ok _

theorem transformOf_misfit {huge : Prop} (v : Value) :
    FailsWith (Fault.IsMisfit huge) (transformOf v) := by
  unfold transformOf
  apply FailsWith.bind (entriesOf_misfit v)
  intro es _
  apply FailsWith.bind
  · apply FailsWith.mapM
    intro e _
    split
    · exact .ok _
    · exact .error (.inr (.inl rfl))
  · intro named _
    dsimp only
    split
    · exact .error (.inr (.inl rfl))
    · split
      · exact .ok _
      · exact .error (.inr (.inl rfl))

theorem transformsOf_misfit {huge : Prop} (v : Value) :
    FailsWith (Fault.IsMisfit huge) (transformsOf v) := by
  unfold transformsOf
  apply FailsWith.bind (Value.items_misfit v)
  intro vs _
  exact .mapM fun u _ => transformOf_misfit u

theorem Check.run_misfit (es : List (Value × Value)) (check : Check) :
    FailsWith (Fault.IsMisfit (Value.map es).HoldsHuge) (check.run es) := by
  have hfield (name : String) {f : Fault} (hf : f.IsMisfit (fieldOf es name).HoldsHuge) :
      f.IsMisfit (Value.map es).HoldsHuge := hf.mono holdsHuge_of_field
  have hnumbers := (numbersOf_misfit (fieldOf es "base_covariance")).mono fun _ => hfield _
  cases check with
  | targets => exact (idsOf_misfit _).map _
  | covariance => exact hnumbers.map _
  | detectionMode => exact (detectionMode_misfit _).map _
  | transforms => exact (transformsOf_misfit _).map _
  | anyTarget => exact .bind (idsOf_misfit _) fun _ _ => .ite (.error (.inl rfl)) (.ok _)
  | covarianceSize => exact .bind hnumbers fun xs _ => (covariance_misfit xs).map _
  | covarianceFinite => exact .bind hnumbers fun _ _ => .ite (.error (.inl rfl)) (.ok _)
  | positive field => exact ((positiveOf_misfit field _).mono fun _ => hfield field).map _
  | minMarkerSize => exact ((notNegativeOf_misfit _).mono fun _ => hfield _).map _
  | frame field => exact .bind (Value.name_misfit _) fun _ _ => .ite (.error (.inl rfl)) (.ok _)

theorem construct_misfit (es : List (Value × Value)) :
    FailsWith (Fault.IsMisfit (Value.map es).HoldsHuge) (construct es) := by
  intro f hf
  obtain ⟨_, check, _, _, _, hfails⟩ := construct_error_iff.mp hf
  exact check.run_misfit es f hfails

theorem construct_skipped (es : List (Value × Value)) :
    SkippedUnless (Value.map es).HoldsHuge (construct es) :=
  .of_misfit (construct_misfit es)

theorem explain_isSkipped {f : Fault} (hf : Replay.isSkipped f = true) :
    Replay.isSkipped (explain f) = true := by
  unfold explain
  split
  · rfl
  · exact hf

theorem unknownFault_isSkipped {keys : List Value} {f : Fault}
    (hf : unknownFault keys = some f) : Replay.isSkipped f = true := by
  unfold unknownFault at hf
  split at hf
  · cases hf
  · split at hf
    · cases hf
      split <;> rfl
    · cases hf
      rfl

/-- A configuration is read unless a number in its document is beyond the doubles, or fails with a
fault that is reported. -/
theorem ofDocument_skipped (v : Value) : SkippedUnless v.HoldsHuge (ofDocument v) := by
  have hentries (es : List (Value × Value)) :
      SkippedUnless (Value.map es).HoldsHuge (ofEntries es) := by
    unfold ofEntries
    split
    next f hf => exact .skipped (unknownFault_isSkipped hf)
    next =>
      split
      · exact (construct_skipped es).mapError (fun _ => explain_isSkipped) rfl
      · exact .skipped rfl
  cases v with
  | map es => exact hentries es
  | null =>
      apply (hentries []).mono
      rintro ⟨n, hn, _⟩
      cases hn with
      | key hmem _ => cases hmem
      | entry hmem _ => cases hmem
  | _ => exact .skipped rfl

end Config

/-! ## Fixed transforms -/

namespace Tensor

theorem entries_skipped {β : Type} {huge : Prop} (t : Tensor) (dims : List Int)
    (form : List Float → Option β) : SkippedUnless huge (t.entries dims form) := by
  unfold entries
  split
  · exact .ok _
  · exact .skipped rfl

end Tensor

namespace StaticTransform

/-- A number of a fixed transform is beyond the doubles. -/
def HoldsHuge (s : StaticTransform) : Prop := s.rotation.HoldsHuge ∨ s.translation.HoldsHuge

theorem mem_of_mem_alike {vs : List Value} {u : Value} (hmem : u ∈ alike vs)
    (hhuge : u.HoldsHuge) : u ∈ vs := by
  unfold alike at hmem
  split at hmem
  · obtain ⟨v, _, rfl⟩ := List.mem_map.mp hmem
    obtain ⟨n, hn, _⟩ := hhuge
    cases hn
  · exact hmem

theorem asEntry_isSkipped {f : Fault} (hf : Replay.isSkipped f = true) :
    Replay.isSkipped (asEntry f) = true := by
  unfold asEntry
  split
  · rfl
  · exact hf

theorem tensorOf_skipped (v : Value) : SkippedUnless v.HoldsHuge (tensorOf v) := by
  unfold tensorOf
  apply SkippedUnless.bind (Tensor.shapeOf_skipped v)
  intro shape _
  apply SkippedUnless.bind
  · refine SkippedUnless.mapError ?_ (fun _ => asEntry_isSkipped) rfl
    apply SkippedUnless.mapM
    intro u hu
    apply (Value.toEntry_skipped u).mono
    intro hhuge
    exact hhuge.of_contains (Value.contains_of_mem_leaves v u (mem_of_mem_alike hu hhuge))
  · intro data _
    exact .ok _

variable {α : Type} [Scalar α]

theorem transform_skipped (s : StaticTransform) :
    SkippedUnless s.HoldsHuge (s.transform : Except Fault (Transform α)) := by
  unfold transform
  apply SkippedUnless.bind ((tensorOf_skipped s.rotation).mono .inl)
  intro r _
  apply SkippedUnless.bind (Tensor.entries_skipped r _ _)
  intro q _
  split
  · exact .skipped rfl
  · apply SkippedUnless.bind ((tensorOf_skipped s.translation).mono .inr)
    intro p _
    apply SkippedUnless.bind (Tensor.entries_skipped p _ _)
    intro t _
    exact .ok _

end StaticTransform

namespace FrameGraph

variable {α : Type} [Scalar α]

theorem add_skipped {huge : Prop} (g : FrameGraph α) (parent child : String) (t : Transform α) :
    SkippedUnless huge (g.add parent child t) :=
  .ite (.skipped rfl) (.ok _)

/-- Fixed transforms make a graph unless a number in one of them is beyond the doubles, or fail with
a fault that is reported. -/
theorem ofStatic_skipped (ss : List StaticTransform) :
    SkippedUnless (∃ s ∈ ss, s.HoldsHuge) (ofStatic ss : Except Fault (FrameGraph α)) := by
  apply SkippedUnless.foldlM
  intro g s hs
  apply SkippedUnless.bind ((StaticTransform.transform_skipped s).mono fun hhuge => ⟨s, hs, hhuge⟩)
  intro t _
  apply SkippedUnless.bind (Value.name_skipped _)
  intro parent _
  apply SkippedUnless.bind (Value.name_skipped _)
  intro child _
  exact add_skipped g parent child t

end FrameGraph

/-! ## Landmark maps -/

namespace LandmarkMap

/-- Whatever goes wrong in reading a map file is a failure at run time. -/
theorem document_runtime [Yaml.Library] (t : FileTree) (p : Path) :
    FailsWith (fun f => f.kind.isRuntime = true) (document t p) := by
  refine .ite (.error rfl) (FailsWith.any.mapError fun f _ => ?_)
  unfold asUnreadable
  split
  next hruntime => exact hruntime
  next => rfl

theorem listed_runtime (v : Value) : FailsWith (fun f => f.kind.isRuntime = true) (listed v) := by
  unfold listed
  split
  · split
    · exact .ok _
    · exact .error rfl
  · exact .error rfl

/-- The entries of a map are read unless a number in one of them is beyond the doubles, or fail with
a fault that is reported. -/
theorem landmarksOf_skipped {α : Type} [Scalar α] (vs : List Value) :
    SkippedUnless (∃ v ∈ vs, v.HoldsHuge) (landmarksOf vs : Except Fault (List (Landmark α))) := by
  apply SkippedUnless.mapM
  intro entry hentry
  obtain ⟨i, hi, rfl⟩ := List.mem_mapIdx.mp hentry
  exact (entryOf_skipped i vs[i]).mono fun hhuge => ⟨vs[i], List.getElem_mem hi, hhuge⟩

end LandmarkMap


/-! ## Event files -/

namespace Event

/-- The stream has mappings only, and ends in a fault only if that is one that is reported. -/
structure Stream.Reported (s : Stream) : Prop where
  mappings : ∃ events : List (List (Value × Value)), s.events = events.map .map
  ending : ∀ f, s.ending = some f → Command.isReplayFault f = true

theorem fault_isReplayFault (trouble : Json.Trouble) :
    Command.isReplayFault trouble.fault = true := by
  cases trouble <;> rfl

theorem ofLine_cases (path : String) (number : Nat) (line : String) :
    (∃ es, ofLine path number line = .ok (.map es)) ∨
      ∃ f, ofLine path number line = .error f ∧ Command.isReplayFault f = true := by
  unfold ofLine
  split
  next es _ => exact .inl ⟨es, rfl⟩
  next => exact .inr ⟨_, rfl, rfl⟩
  next => exact .inr ⟨_, rfl, rfl⟩
  next trouble _ _ => exact .inr ⟨_, rfl, fault_isReplayFault trouble⟩

theorem ofLines_reported {last : Option Fault}
    (hlast : ∀ f, last = some f → Command.isReplayFault f = true) (path : String) (number : Nat)
    (lines : List String) : (ofLines path number last lines).Reported := by
  induction lines generalizing number with
  | nil => exact ⟨⟨[], rfl⟩, hlast⟩
  | cons line rest ih =>
      unfold ofLines
      split
      · exact ih _
      · rcases ofLine_cases path number line with ⟨es, hline⟩ | ⟨f, hline, hreported⟩
        · rw [hline]
          obtain ⟨⟨events, hevents⟩, hending⟩ := ih (number + 1)
          exact ⟨⟨es :: events, by simp [hevents]⟩, hending⟩
        · rw [hline]
          constructor
          · exact ⟨[], rfl⟩
          · rintro g ⟨⟩
            exact hreported

theorem ofContent_reported (path : String) (data : ByteArray) :
    (ofContent path data).Reported := by
  apply ofLines_reported
  intro f hf
  split at hf
  · cases hf
  · cases hf
    rfl

/-- A path that is no directory gives events and an ending that is reported. -/
theorem load_reported {t : FileTree} {p : Path} (hfile : t.node? p ≠ some .directory)
    (text : String) : (load t p text).Reported := by
  unfold load
  split
  · exact ⟨⟨[], rfl⟩, by rintro f ⟨⟩; rfl⟩
  next hexists =>
    unfold FileTree.read
    cases hnode : t.node? p with
    | none => simp [FileTree.exists?, hnode] at hexists
    | some node =>
        cases node with
        | directory => exact absurd hnode hfile
        | file data => exact ofContent_reported text data

theorem load_directory {t : FileTree} {p : Path} (hdirectory : t.node? p = some .directory)
    (text : String) : load t p text = ⟨[], some (.isDirectory text)⟩ := by
  simp [load, FileTree.exists?, FileTree.read, hdirectory]

end Event

end Fiducial
