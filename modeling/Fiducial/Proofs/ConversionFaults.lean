import Fiducial.PoseLog
import Fiducial.Proofs.RegistryBuilding
import Fiducial.Proofs.ValueContents
import Fiducial.Replay.Basic

/-!
# Faults of conversions

Every conversion from data that an event can lead to fails with a fault for which a replay skips the
event, with one exception: a whole number that is beyond the doubles is of another kind.  So a
conversion fails otherwise only if such a number stands somewhere in the data that it converts.
-/

namespace Fiducial

/-! ## Conversions that fail -/

/-- A computation fails only with faults that are skipped, unless `huge` holds. -/
def SkippedUnless {β : Type} (huge : Prop) (x : Except Fault β) : Prop :=
  ∀ f, x = .error f → Replay.isSkipped f = true ∨ (f = .tooLarge ∧ huge)

namespace SkippedUnless

variable {β γ : Type} {huge : Prop}

theorem ok (b : β) : SkippedUnless huge (.ok b) := by
  rintro f ⟨⟩

theorem skipped {f : Fault} (hf : Replay.isSkipped f = true) :
    SkippedUnless huge (.error f : Except Fault β) := by
  rintro _ ⟨⟩
  exact .inl hf

/-- A fault that is not skipped is that of a number beyond the doubles. -/
theorem error_iff {x : Except Fault β} (hx : SkippedUnless huge x) (f : Fault) :
    x = .error f ∧ Replay.isSkipped f = false ↔ f = .tooLarge ∧ x = .error .tooLarge := by
  constructor
  · rintro ⟨hf, hnot⟩
    rcases hx f hf with hskipped | ⟨rfl, _⟩
    · rw [hskipped] at hnot
      cases hnot
    · exact ⟨rfl, hf⟩
  · rintro ⟨rfl, hf⟩
    exact ⟨hf, rfl⟩

theorem huge_of_tooLarge {x : Except Fault β} (hx : SkippedUnless huge x)
    (hf : x = .error .tooLarge) : huge := by
  rcases hx .tooLarge hf with hskipped | ⟨_, hhuge⟩
  · cases hskipped
  · exact hhuge

theorem mono {huge' : Prop} {x : Except Fault β} (hx : SkippedUnless huge x)
    (himp : huge → huge') : SkippedUnless huge' x := by
  intro f hf
  rcases hx f hf with hskipped | ⟨hlarge, hhuge⟩
  · exact .inl hskipped
  · exact .inr ⟨hlarge, himp hhuge⟩

theorem ite {c : Prop} [Decidable c] {x y : Except Fault β} (hx : SkippedUnless huge x)
    (hy : SkippedUnless huge y) : SkippedUnless huge (if c then x else y) :=
  FailsWith.ite hx hy

theorem bind {x : Except Fault β} {g : β → Except Fault γ} (hx : SkippedUnless huge x)
    (hg : ∀ b, x = .ok b → SkippedUnless huge (g b)) : SkippedUnless huge (x >>= g) :=
  FailsWith.bind hx hg

theorem map {x : Except Fault β} (hx : SkippedUnless huge x) (g : β → γ) :
    SkippedUnless huge (x.map g) :=
  FailsWith.map hx g

theorem mapM {g : β → Except Fault γ} {bs : List β}
    (hg : ∀ b ∈ bs, SkippedUnless huge (g b)) : SkippedUnless huge (bs.mapM g) :=
  FailsWith.mapM hg

theorem foldlM {g : γ → β → Except Fault γ} {bs : List β}
    (hg : ∀ c, ∀ b ∈ bs, SkippedUnless huge (g c b)) (c : γ) :
    SkippedUnless huge (bs.foldlM g c) :=
  FailsWith.foldlM hg c

theorem mapError {x : Except Fault β} {g : Fault → Fault} (hx : SkippedUnless huge x)
    (hg : ∀ f, Replay.isSkipped f = true → Replay.isSkipped (g f) = true)
    (hlarge : g .tooLarge = .tooLarge) : SkippedUnless huge (x.mapError g) := by
  refine FailsWith.mapError hx fun f hf => ?_
  rcases hf with hskipped | ⟨rfl, hhuge⟩
  · exact .inl (hg f hskipped)
  · exact .inr ⟨hlarge, hhuge⟩

end SkippedUnless

/-- The fault of a value that does not fit what it is read as, by its type, by its content or, if
`huge` holds, as a number beyond the doubles. -/
def Fault.IsMisfit (huge : Prop) (f : Fault) : Prop :=
  f.kind = .value ∨ f.kind = .type ∨ (f = .tooLarge ∧ huge)

theorem Fault.IsMisfit.mono {huge huge' : Prop} {f : Fault} (hf : f.IsMisfit huge)
    (himp : huge → huge') : f.IsMisfit huge' :=
  hf.imp_right (Or.imp_right (And.imp_right himp))

theorem SkippedUnless.of_misfit {β : Type} {huge : Prop} {x : Except Fault β}
    (hx : FailsWith (Fault.IsMisfit huge) x) : SkippedUnless huge x := by
  intro f hf
  rcases hx f hf with hvalue | htype | hlarge
  · exact .inl (by simp [Replay.isSkipped, hvalue, Fault.Kind.isValue])
  · exact .inl (by simp [Replay.isSkipped, htype])
  · exact .inr hlarge

/-! ## Numbers, names and arrays -/

theorem Value.toFloat_misfit (v : Value) : FailsWith (Fault.IsMisfit v.HoldsHuge) v.toFloat := by
  cases v with
  | int n =>
      simp only [toFloat]
      cases hdouble : Binary.ofInt? n with
      | none => exact .error (.inr (.inr ⟨rfl, n, .refl _, hdouble⟩))
      | some x => exact .ok x
  | str s =>
      simp only [toFloat]
      cases Decimal.readFloat? s with
      | none => exact .error (.inl rfl)
      | some x => exact .ok x
  | bytes d =>
      simp only [toFloat]
      cases bytesFloat? d with
      | none => exact .error (.inl rfl)
      | some x => exact .ok x
  | bool b => exact .ok _
  | float x => exact .ok x
  | _ => exact .error (.inr (.inl rfl))

theorem Value.toFloat_skipped (v : Value) : SkippedUnless v.HoldsHuge v.toFloat :=
  .of_misfit v.toFloat_misfit

theorem Value.toEntry_misfit (v : Value) : FailsWith (Fault.IsMisfit v.HoldsHuge) v.toEntry := by
  cases v with
  | null => exact .ok _
  | _ => exact toFloat_misfit _

theorem Value.toEntry_skipped (v : Value) : SkippedUnless v.HoldsHuge v.toEntry :=
  .of_misfit v.toEntry_misfit

theorem Value.name_misfit {huge : Prop} (v : Value) : FailsWith (Fault.IsMisfit huge) v.name :=
  .ite (.ok _) (.error (.inl rfl))

theorem Value.name_skipped {huge : Prop} (v : Value) : SkippedUnless huge v.name :=
  .of_misfit v.name_misfit

theorem Value.items_misfit {huge : Prop} (v : Value) : FailsWith (Fault.IsMisfit huge) v.items := by
  cases v with
  | list xs => exact .ok xs
  | set xs => exact .ok xs
  | str s => exact .ok _
  | map es => exact .ok _
  | bytes d => exact .ok _
  | _ => exact .error (.inr (.inl rfl))

theorem Value.items_skipped {huge : Prop} (v : Value) : SkippedUnless huge v.items :=
  .of_misfit v.items_misfit

theorem Value.itemsOrNone_skipped {huge : Prop} (v : Value) :
    SkippedUnless huge v.itemsOrNone := by
  unfold itemsOrNone
  split
  · exact items_skipped v
  · exact .ok []

theorem Tensor.shapeOf_misfit {huge : Prop} (v : Value) :
    FailsWith (Fault.IsMisfit huge) (shapeOf v) := by
  unfold shapeOf
  cases v.shape? with
  | some s => exact .ite (.ok s) (.error (.inl rfl))
  | none =>
      dsimp only
      split <;> exact .error (.inl rfl)

theorem Tensor.shapeOf_skipped {huge : Prop} (v : Value) : SkippedUnless huge (shapeOf v) :=
  .of_misfit (shapeOf_misfit v)

/-- A value is read as an array unless it is no array of numbers or meets a number beyond the
doubles. -/
theorem Tensor.ofValue_misfit (v : Value) :
    FailsWith (Fault.IsMisfit v.HoldsHuge) (ofValue v) := by
  unfold ofValue
  apply FailsWith.bind (shapeOf_misfit v)
  intro shape _
  apply FailsWith.bind
  · apply FailsWith.mapM
    intro u hu
    have huge (hu' : u.HoldsHuge) : v.HoldsHuge :=
      hu'.of_contains (Value.contains_of_mem_leaves v u hu)
    exact (Value.toEntry_misfit u).mono fun _ hf => hf.mono huge
  · intro data _
    exact .ok _

theorem Tensor.ofValue_skipped (v : Value) : SkippedUnless v.HoldsHuge (ofValue v) :=
  .of_misfit (ofValue_misfit v)

/-! ## Events -/

namespace Event

variable {es : List (Value × Value)}

theorem numbers_skipped (field : String) (n : Nat) :
    SkippedUnless (Value.map es).HoldsHuge (numbers field n es) := by
  unfold numbers
  cases hlookup : Value.lookup field es with
  | none => exact .skipped rfl
  | some v =>
      have huge (hv : v.HoldsHuge) : (Value.map es).HoldsHuge :=
        hv.of_contains (Value.contains_of_lookup hlookup)
      apply SkippedUnless.bind ((Tensor.ofValue_skipped v).mono huge)
      intro t _
      split
      · exact .skipped rfl
      · exact .ok _

theorem vector_skipped (field : String) :
    SkippedUnless (Value.map es).HoldsHuge (vector field es) := by
  unfold vector
  apply SkippedUnless.bind (numbers_skipped field 3)
  intro xs _
  cases Vec3.ofList? xs with
  | none => exact .skipped rfl
  | some p => exact .ok p

theorem quaternion_skipped (field : String) :
    SkippedUnless (Value.map es).HoldsHuge (quaternion field es) := by
  unfold quaternion
  apply SkippedUnless.bind (numbers_skipped field 4)
  intro xs _
  cases Quaternion.ofList? xs with
  | none => exact .skipped rfl
  | some q => exact .ok q

theorem required_skipped {huge : Prop} (field : String) :
    SkippedUnless huge (required field es) := by
  unfold required
  cases Value.lookup field es with
  | none => exact .skipped rfl
  | some v => exact .ok v

theorem contains_of_required {field : String} {v : Value} (hv : required field es = .ok v) :
    Value.Contains (.map es) v := by
  unfold required at hv
  cases hlookup : Value.lookup field es with
  | none =>
      rw [hlookup] at hv
      cases hv
  | some w =>
      rw [hlookup] at hv
      cases hv
      exact Value.contains_of_lookup hlookup

theorem stamp_skipped : SkippedUnless (Value.map es).HoldsHuge (stamp es) := by
  unfold stamp
  apply SkippedUnless.bind (required_skipped "t")
  intro v hv
  have huge (hv' : v.HoldsHuge) : (Value.map es).HoldsHuge :=
    hv'.of_contains (contains_of_required hv)
  exact (Value.toFloat_skipped v).mono huge

variable {α : Type} [Scalar α]

theorem rotation_skipped :
    SkippedUnless (Value.map es).HoldsHuge (rotation es : Except Fault (Mat3 α)) := by
  unfold rotation
  cases Value.lookup "orientation_xyzw" es with
  | none => exact .ok _
  | some v =>
      apply SkippedUnless.bind (quaternion_skipped "orientation_xyzw")
      intro q _
      cases (q.map Scalar.ofFloat : Quaternion α).toMatrix? with
      | none => exact .skipped rfl
      | some m => exact .ok m

theorem reference_skipped :
    SkippedUnless (Value.map es).HoldsHuge (reference es : Except Fault (ReferencePose α)) := by
  unfold reference
  apply SkippedUnless.bind rotation_skipped
  intro r _
  apply SkippedUnless.bind stamp_skipped
  intro t _
  apply SkippedUnless.bind (vector_skipped "position")
  intro p _
  exact .ok _

theorem member_skipped {huge : Prop} (field : String) (v : Value) :
    SkippedUnless huge (member field v) := by
  cases v with
  | map es => exact required_skipped field
  | _ => exact .skipped rfl

theorem memberVector_skipped (field : String) (v : Value) :
    SkippedUnless v.HoldsHuge (memberVector field v) := by
  cases v with
  | map es => exact vector_skipped field
  | _ => exact .skipped rfl

theorem detection_skipped (t : α) (sensor : String) (v : Value) :
    SkippedUnless v.HoldsHuge (detection t sensor v) := by
  unfold detection
  apply SkippedUnless.bind (member_skipped "id" v)
  intro id _
  apply SkippedUnless.bind (Value.name_skipped id)
  intro name _
  apply SkippedUnless.bind (memberVector_skipped "rvec" v)
  intro r _
  apply SkippedUnless.bind (memberVector_skipped "tvec" v)
  intro p _
  exact .ok _

theorem detections_skipped :
    SkippedUnless (Value.map es).HoldsHuge
      (detections es : Except Fault (List (Detection α))) := by
  unfold detections
  apply SkippedUnless.bind stamp_skipped
  intro t _
  apply SkippedUnless.bind (required_skipped "sensor_frame")
  intro frame _
  apply SkippedUnless.bind (Value.name_skipped frame)
  intro sensor _
  apply SkippedUnless.bind (Value.itemsOrNone_skipped _)
  intro vs hvs
  apply SkippedUnless.mapM
  intro v hv
  have huge (hv' : v.HoldsHuge) : (Value.map es).HoldsHuge :=
    Value.holdsHuge_of_field Value.not_holdsHuge_null
      (Value.holdsHuge_of_mem_itemsOrNone hvs hv hv')
  exact (detection_skipped _ sensor v).mono huge

/-- The stamp of detections that were read can be read. -/
theorem stamp_of_detections {ds : List (Detection α)} (hds : detections es = .ok ds) :
    ∃ t, ((Value.lookup "t" es).getD .null).toFloat = .ok t := by
  obtain ⟨t, ht, _⟩ := exists_of_bind_ok hds
  obtain ⟨v, hv, hvt⟩ := exists_of_bind_ok ht
  unfold required at hv
  cases hlookup : Value.lookup "t" es with
  | none =>
      rw [hlookup] at hv
      cases hv
  | some w =>
      rw [hlookup] at hv
      cases hv
      exact ⟨t, hvt⟩

theorem landmarks_skipped {huge : Prop} :
    SkippedUnless huge (landmarks es : Except Fault (List (Except Fault (Landmark α)))) := by
  unfold landmarks
  apply SkippedUnless.bind (Value.itemsOrNone_skipped _)
  intro vs _
  exact .ok _

end Event

/-! ## Landmark maps -/

namespace LandmarkMap

theorem notNumeric_isSkipped (field : String) (v : Value) :
    Replay.isSkipped (notNumeric field v) = true := by
  unfold notNumeric
  split <;> rfl

theorem numbers_skipped (field : String) (n : Nat) (v : Value) :
    SkippedUnless v.HoldsHuge (numbers field n v) := by
  unfold numbers
  have hread := Tensor.ofValue_skipped v
  cases hvalue : Tensor.ofValue v with
  | error f =>
      dsimp only
      split
      · exact .skipped (notNumeric_isSkipped field v)
      · rw [hvalue] at hread
        exact fun g hg => hread g (congrArg Except.error (Except.error.inj hg))
  | ok t =>
      dsimp only
      split
      · exact .skipped rfl
      · split
        · exact .skipped rfl
        · exact .ok _

theorem vector_skipped (field : String) (v : Value) :
    SkippedUnless v.HoldsHuge (vector field v) := by
  unfold vector
  apply SkippedUnless.bind (numbers_skipped field 3 v)
  intro xs _
  cases Vec3.ofList? xs with
  | none => exact .skipped rfl
  | some p => exact .ok p

theorem quaternion_skipped (field : String) (v : Value) :
    SkippedUnless v.HoldsHuge (quaternion field v) := by
  unfold quaternion
  apply SkippedUnless.bind (numbers_skipped field 4 v)
  intro xs _
  cases Quaternion.ofList? xs with
  | none => exact .skipped rfl
  | some q => exact .ok q

theorem idOf_skipped {huge : Prop} (index : Int) (es : List (Value × Value)) :
    SkippedUnless huge (idOf index es) := by
  unfold idOf
  split
  · exact .skipped rfl
  · apply SkippedUnless.bind (Value.name_skipped _)
    intro name _
    split
    · exact .skipped rfl
    · exact .ok _

theorem not_holdsHuge_noRotation : ¬ noRotation.HoldsHuge := by
  rintro ⟨n, hn, _⟩
  cases hn with
  | list hmem hx =>
      simp only [List.mem_cons, List.not_mem_nil, or_false] at hmem
      rcases hmem with rfl | rfl | rfl | rfl <;> cases hx

variable {α : Type} [Scalar α]

theorem orientationOf_skipped (field : String) (v : Value) :
    SkippedUnless v.HoldsHuge (orientationOf field v : Except Fault (Mat3 α)) := by
  unfold orientationOf
  apply SkippedUnless.bind (quaternion_skipped field v)
  intro q _
  cases (q.map Scalar.ofFloat : Quaternion α).toMatrix? with
  | none => exact .skipped rfl
  | some m => exact .ok m

theorem orientationFault_isSkipped (f : Fault) (hskipped : Replay.isSkipped f = true) :
    Replay.isSkipped (orientationFault f) = true := by
  unfold orientationFault
  by_cases hvalue : f.kind.isValue = true
  · rw [if_pos hvalue]
    rfl
  · rw [if_neg hvalue]
    exact hskipped

theorem rotationOf_skipped (id : String) (es : List (Value × Value)) :
    SkippedUnless (Value.map es).HoldsHuge (rotationOf id es : Except Fault (Mat3 α)) := by
  unfold rotationOf
  dsimp only
  cases hrvec : Value.lookup "rvec" es with
  | some r =>
      cases hquaternion : Value.lookup "orientation_xyzw" es with
      | some q => exact .skipped rfl
      | none =>
          have huge (hr : r.HoldsHuge) : (Value.map es).HoldsHuge :=
            hr.of_contains (Value.contains_of_lookup hrvec)
          apply SkippedUnless.bind ((vector_skipped _ r).mono huge)
          intro v _
          exact .ok _
  | none =>
      have huge (hq : ((Value.lookup "orientation_xyzw" es).getD noRotation).HoldsHuge) :
          (Value.map es).HoldsHuge :=
        Value.holdsHuge_of_field not_holdsHuge_noRotation hq
      exact ((orientationOf_skipped _ _).mono huge).mapError orientationFault_isSkipped rfl

theorem entryOf_skipped (index : Int) (v : Value) :
    SkippedUnless v.HoldsHuge (entryOf index v : Except Fault (Landmark α)) := by
  cases v with
  | map es =>
      simp only [entryOf]
      apply SkippedUnless.bind (idOf_skipped index es)
      intro id _
      have huge (hv : ((Value.lookup "position" es).getD .null).HoldsHuge) :
          (Value.map es).HoldsHuge :=
        Value.holdsHuge_of_field Value.not_holdsHuge_null hv
      apply SkippedUnless.bind ((vector_skipped _ _).mono huge)
      intro position _
      apply SkippedUnless.bind (rotationOf_skipped id es)
      intro rotation _
      exact .ok _
  | _ => exact .skipped rfl

/-- Each landmark of a map event is read unless a number in the event is beyond the doubles. -/
theorem entry_skipped {es : List (Value × Value)} {ls : List (Except Fault (Landmark α))}
    (hls : Event.landmarks es = .ok ls) :
    ∀ l ∈ ls, SkippedUnless (Value.map es).HoldsHuge l := by
  obtain ⟨vs, hvs, hentries⟩ := exists_of_bind_ok hls
  cases hentries
  intro l hl
  obtain ⟨i, hi, rfl⟩ := List.mem_mapIdx.mp hl
  have huge (hv : vs[i].HoldsHuge) : (Value.map es).HoldsHuge :=
    Value.holdsHuge_of_field Value.not_holdsHuge_null
      (Value.holdsHuge_of_mem_itemsOrNone hvs (List.getElem_mem hi) hv)
  exact (entryOf_skipped i vs[i]).mono huge

end LandmarkMap

/-! ## Registries and pose logs -/

namespace Registry

variable {α : Type}

theorem add_skipped {huge : Prop} (r : Registry α) (l : Landmark α) :
    SkippedUnless huge (r.add l) := by
  unfold add
  split
  · exact .skipped rfl
  · exact .ok _

theorem collect_skipped {huge : Prop} {ls : List (Except Fault (Landmark α))}
    (hls : ∀ l ∈ ls, SkippedUnless huge l) : SkippedUnless huge (collect ls) := by
  apply SkippedUnless.foldlM
  intro r l hl
  apply SkippedUnless.bind (hls l hl)
  intro landmark _
  exact add_skipped r landmark

/-- Landmarks that are there fail to make a registry only by repeating an id. -/
theorem collect_duplicate (map : List (Landmark α)) :
    FailsWith (fun f => f.kind = .value) (collect (map.map .ok)) := by
  apply FailsWith.foldlM
  intro r l hl
  obtain ⟨landmark, _, rfl⟩ := List.mem_map.mp hl
  exact .ite (.error rfl) (.ok _)

/-- Landmarks with distinct ids make a registry. -/
theorem collect_of_nodup {ls : List (Landmark α)} (hnodup : (ls.map (·.id)).Nodup) :
    ∃ r, collect (ls.map .ok) = .ok r :=
  ⟨⟨ls⟩, collect_ok_iff.mpr ⟨rfl, hnodup⟩⟩

end Registry

theorem Rotation.nearest_skipped {α : Type} [Scalar α] [Numerics α] {huge : Prop} (m : Mat3 α) :
    SkippedUnless huge (nearest m) := by
  unfold nearest
  split
  · exact .skipped rfl
  · split
    · exact .ok m
    · split
      · exact .ok _
      · exact .skipped rfl

/-- A pose log refuses an estimate only with a fault that is skipped. -/
theorem PoseLog.publish_skipped {α : Type} [Scalar α] [Numerics α] {huge : Prop} (now : Float)
    (l : PoseLog) (e : Estimate α) : SkippedUnless huge (publish now l e) := by
  have hrecord : SkippedUnless huge (record e) := by
    unfold record
    apply SkippedUnless.bind ((Rotation.nearest_skipped e.pose.rotation).map _)
    intro q _
    apply SkippedUnless.bind ((Rotation.nearest_skipped e.pose.rotation).map _)
    intro heading _
    exact .ok _
  exact (hrecord.map lineOf).map (l.append now)

end Fiducial
