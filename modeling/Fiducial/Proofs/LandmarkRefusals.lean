import Fiducial.Proofs.ConfigRefusals

/-!
# How an entry is refused as a landmark

The fields of an entry are read in a fixed order: its id, its position and its rotation.  What is
wrong with a field is a fault of the entry, except in two cases.  A whole number beyond the doubles
that is met before anything else in the field is wrong is an overflow.  A whole number with too many
digits to be written is no id, and a field that holds it cannot be shown when it is refused; only
for an orientation is that turned into a fault of the entry.
-/

namespace Fiducial
namespace LandmarkMap

open Config (FailsAs IsBeyondDoubles not_failsAs not_failsAs_ok)

/-! ## Kinds of faults along a computation -/

section Computations

variable {β γ : Type} {kind : Fault.Kind} {x : Except Fault β} {g : β → Except Fault γ}

theorem failsAs_bind_iff :
    FailsAs kind (x >>= g) ↔ FailsAs kind x ∨ ∃ b, x = .ok b ∧ FailsAs kind (g b) := by
  simp only [FailsAs, bind_error_iff]
  constructor
  · intro hfails
    obtain ⟨f, hfirst | ⟨b, hb, hsecond⟩, hkind⟩ := hfails
    · exact .inl ⟨f, hfirst, hkind⟩
    · exact .inr ⟨b, hb, f, hsecond, hkind⟩
  · intro hfails
    rcases hfails with ⟨f, hfirst, hkind⟩ | ⟨b, hb, f, hsecond, hkind⟩
    · exact ⟨f, .inl hfirst, hkind⟩
    · exact ⟨f, .inr ⟨b, hb, hsecond⟩, hkind⟩

theorem not_failsAs_of_kind (other : Fault.Kind) (hne : other ≠ kind)
    (hx : FailsWith (·.kind = other) x) : ¬ FailsAs kind x := by
  intro hfails
  obtain ⟨f, hf, hkind⟩ := hfails
  exact hne ((hx f hf).symm.trans hkind)

/-- A second step that fails with one kind only adds no failures of another. -/
theorem failsAs_bind_iff_left (other : Fault.Kind) (hne : other ≠ kind)
    (hg : ∀ b, FailsWith (·.kind = other) (g b)) : FailsAs kind (x >>= g) ↔ FailsAs kind x := by
  rw [failsAs_bind_iff]
  refine or_iff_left fun hsecond => ?_
  obtain ⟨b, _, hfails⟩ := hsecond
  exact not_failsAs_of_kind other hne (hg b) hfails

end Computations

/-- What does not hold of the default holds only of a value that is given. -/
theorem holds_getD_iff {P : Value → Prop} {default : Value} (hdefault : ¬ P default)
    {given : Option Value} : P (given.getD default) ↔ ∃ v, given = some v ∧ P v := by
  cases given with
  | none => simpa using hdefault
  | some v => simp

/-! ## Values as arrays -/

/-- The first thing that is wrong with a value as an array is a number beyond the doubles. -/
def MeetsHuge (v : Value) : Prop :=
  ∃ shape before u after, Tensor.shapeOf v = .ok shape ∧ v.leaves = before ++ u :: after ∧
    (∀ w ∈ before, ∃ x, w.toEntry = .ok x) ∧ IsBeyondDoubles u

/-- The value has no shape, or the first of its leaves that stands for no double is no number. -/
def IsNoArray (v : Value) : Prop :=
  (∀ shape, Tensor.shapeOf v ≠ .ok shape) ∨
    ∃ before u after, v.leaves = before ++ u :: after ∧
      (∀ w ∈ before, ∃ x, w.toEntry = .ok x) ∧ (∀ x, u.toEntry ≠ .ok x) ∧ ¬ IsBeyondDoubles u

theorem toEntry_tooLarge_iff {u : Value} : u.toEntry = .error .tooLarge ↔ IsBeyondDoubles u := by
  cases u with
  | null => simp [Value.toEntry, IsBeyondDoubles]
  | _ => simp only [Value.toEntry, Config.toFloat_tooLarge_iff]

theorem ofValue_error_iff {v : Value} {f : Fault} :
    Tensor.ofValue v = .error f ↔ Tensor.shapeOf v = .error f ∨
      ∃ shape, Tensor.shapeOf v = .ok shape ∧ ∃ before u after, v.leaves = before ++ u :: after ∧
        (∀ w ∈ before, ∃ x, w.toEntry = .ok x) ∧ u.toEntry = .error f := by
  unfold Tensor.ofValue
  rw [bind_error_iff]
  refine or_congr_right (exists_congr fun shape => and_congr_right fun _ => ?_)
  rw [bind_error_iff, Config.mapM_error_iff]
  exact or_iff_left fun hread => nomatch hread.choose_spec.2

theorem ofValue_tooLarge_iff {v : Value} : Tensor.ofValue v = .error .tooLarge ↔ MeetsHuge v := by
  rw [ofValue_error_iff, Config.tooLarge_iff_false (Tensor.shapeOf_misfit v), false_or]
  simp only [toEntry_tooLarge_iff]
  constructor
  · intro hmeets
    obtain ⟨shape, hshape, before, u, after, hrest⟩ := hmeets
    exact ⟨shape, before, u, after, hshape, hrest⟩
  · intro hmeets
    obtain ⟨shape, before, u, after, hshape, hrest⟩ := hmeets
    exact ⟨shape, hshape, before, u, after, hrest⟩

theorem isNoArray_iff {v : Value} :
    IsNoArray v ↔ ∃ f, Tensor.ofValue v = .error f ∧ f ≠ .tooLarge := by
  have hshapeless {f : Fault} (hshape : Tensor.shapeOf v = .error f) : f ≠ .tooLarge := by
    intro hlarge
    rw [hlarge] at hshape
    exact (Config.tooLarge_iff_false (Tensor.shapeOf_misfit v)).mp hshape
  constructor
  · intro hno
    cases hshape : Tensor.shapeOf v with
    | error f => exact ⟨f, ofValue_error_iff.mpr (.inl hshape), hshapeless hshape⟩
    | ok shape =>
        rcases hno with hnone | ⟨before, u, after, hleaves, hbefore, hu, hsmall⟩
        · exact absurd hshape (hnone shape)
        · cases hentry : u.toEntry with
          | ok x => exact absurd hentry (hu x)
          | error f =>
              refine ⟨f, ofValue_error_iff.mpr
                (.inr ⟨shape, hshape, before, u, after, hleaves, hbefore, hentry⟩), ?_⟩
              intro hlarge
              rw [hlarge] at hentry
              exact hsmall (toEntry_tooLarge_iff.mp hentry)
  · intro hfails
    obtain ⟨f, hf, hne⟩ := hfails
    rcases ofValue_error_iff.mp hf with
      hshape | ⟨shape, hshape, before, u, after, hleaves, hbefore, hentry⟩
    · left
      intro shape hok
      cases hshape.symm.trans hok
    · right
      refine ⟨before, u, after, hleaves, hbefore, ?_, ?_⟩
      · intro x hok
        cases hentry.symm.trans hok
      · intro hbeyond
        cases hentry.symm.trans (toEntry_tooLarge_iff.mpr hbeyond)
        exact hne rfl

/-! ## Fields of numbers -/

/-- The value is no array of numbers, and cannot be shown either. -/
def IsUnshowable (v : Value) : Prop := IsNoArray v ∧ v.isWritable = false

/-- The value is an array of three finite numbers. -/
def IsVector (v : Value) : Prop :=
  ∃ shape p, Tensor.ofValue v = .ok ⟨shape, Vec3.toList p⟩ ∧ p.isFinite = true

section Fields

variable {field : String} {n : Nat} {v : Value}

theorem numbers_of_array {t : Tensor} (hread : Tensor.ofValue v = .ok t) :
    FailsWith (·.kind = .runtime) (numbers field n v) := by
  unfold numbers
  rw [hread]
  exact .ite (.error rfl) (.ite (.error rfl) (.ok _))

theorem numbers_of_meetsHuge (hhuge : MeetsHuge v) : numbers field n v = .error .tooLarge := by
  unfold numbers
  rw [ofValue_tooLarge_iff.mpr hhuge]
  rfl

theorem numbers_of_isNoArray (hno : IsNoArray v) :
    numbers field n v = .error (notNumeric field v) := by
  obtain ⟨f, hf, hne⟩ := isNoArray_iff.mp hno
  have hkind : (f.kind.isValue || f.kind = .type) = true := by
    rcases Tensor.ofValue_misfit v f hf with hvalue | htype | ⟨hlarge, _⟩
    · simp [hvalue, Fault.Kind.isValue]
    · simp [htype]
    · exact absurd hlarge hne
  unfold numbers
  rw [hf]
  exact congrArg Except.error (if_pos hkind)

theorem array_cases (v : Value) :
    (∃ t, Tensor.ofValue v = .ok t) ∨ MeetsHuge v ∨ IsNoArray v := by
  cases hread : Tensor.ofValue v with
  | ok t => exact .inl ⟨t, rfl⟩
  | error f =>
      right
      by_cases hlarge : f = .tooLarge
      · rw [hlarge] at hread
        exact .inl (ofValue_tooLarge_iff.mp hread)
      · exact .inr (isNoArray_iff.mpr ⟨f, hread, hlarge⟩)

theorem not_isNoArray_of_meetsHuge (hhuge : MeetsHuge v) : ¬ IsNoArray v := by
  intro hno
  obtain ⟨f, hf, hne⟩ := isNoArray_iff.mp hno
  cases hf.symm.trans (ofValue_tooLarge_iff.mpr hhuge)
  exact hne rfl

theorem numbers_overflow_iff : FailsAs .overflow (numbers field n v) ↔ MeetsHuge v := by
  rcases array_cases v with ⟨t, hread⟩ | hhuge | hno
  · refine iff_of_false ?_ fun hhuge => ?_
    · exact not_failsAs_of_kind .runtime nofun (numbers_of_array hread)
    · cases hread.symm.trans (ofValue_tooLarge_iff.mpr hhuge)
  · exact iff_of_true ⟨_, numbers_of_meetsHuge hhuge, rfl⟩ hhuge
  · rw [numbers_of_isNoArray hno]
    refine iff_of_false (not_failsAs ?_) fun hhuge => not_isNoArray_of_meetsHuge hhuge hno
    unfold notNumeric
    split <;> nofun

theorem numbers_value_iff : FailsAs .value (numbers field n v) ↔ IsUnshowable v := by
  rcases array_cases v with ⟨t, hread⟩ | hhuge | hno
  · refine iff_of_false ?_ fun hunshowable => ?_
    · exact not_failsAs_of_kind .runtime nofun (numbers_of_array hread)
    · obtain ⟨f, hf, _⟩ := isNoArray_iff.mp hunshowable.1
      cases hread.symm.trans hf
  · rw [numbers_of_meetsHuge hhuge]
    exact iff_of_false (not_failsAs nofun) fun hno => not_isNoArray_of_meetsHuge hhuge hno.1
  · rw [numbers_of_isNoArray hno, notNumeric]
    by_cases hwritable : v.isWritable = true
    · rw [if_pos hwritable]
      refine iff_of_false (not_failsAs nofun) fun hunshowable => ?_
      rw [hunshowable.2] at hwritable
      cases hwritable
    · rw [if_neg hwritable]
      exact iff_of_true ⟨_, rfl, rfl⟩ ⟨hno, Bool.not_eq_true _ ▸ hwritable⟩

/-- The kinds of faults with which the reading of an entry fails. -/
def IsEntryKind (f : Fault) : Prop := f.kind = .runtime ∨ f.kind = .value ∨ f.kind = .overflow

theorem numbers_kinds : FailsWith IsEntryKind (numbers field n v) := by
  rcases array_cases v with ⟨t, hread⟩ | hhuge | hno
  · exact (numbers_of_array hread).mono fun _ hkind => .inl hkind
  · rw [numbers_of_meetsHuge hhuge]
    exact .error (.inr (.inr rfl))
  · rw [numbers_of_isNoArray hno, notNumeric]
    by_cases hwritable : v.isWritable = true
    · rw [if_pos hwritable]
      exact .error (.inl rfl)
    · rw [if_neg hwritable]
      exact .error (.inr (.inl rfl))

theorem numbers_ok_iff {xs : List Float} : numbers field n v = .ok xs ↔
    (∃ shape, Tensor.ofValue v = .ok ⟨shape, xs⟩) ∧ xs.length = n ∧
      xs.all Float.isFinite = true := by
  unfold numbers
  cases hread : Tensor.ofValue v with
  | error f => simp
  | ok t =>
      dsimp only
      constructor
      · intro hok
        split at hok
        next => cases hok
        next hsize =>
          split at hok
          next => cases hok
          next hfinite =>
            cases hok
            exact ⟨⟨t.shape, rfl⟩, not_not.mp hsize, by simpa using hfinite⟩
      · intro hok
        obtain ⟨⟨shape, ht⟩, hlength, hfinite⟩ := hok
        cases ht
        dsimp only
        rw [Tensor.size, if_neg (not_not.mpr hlength), hfinite]
        rfl

theorem vector_ok_iff {p : Vec3 Float} : vector field v = .ok p ↔
    (∃ shape, Tensor.ofValue v = .ok ⟨shape, p.toList⟩) ∧ p.isFinite = true := by
  unfold vector
  rw [bind_ok_iff]
  constructor
  · intro hok
    obtain ⟨xs, hxs, hp⟩ := hok
    obtain ⟨hread, hlength, hfinite⟩ := numbers_ok_iff.mp hxs
    obtain ⟨x, y, z, rfl⟩ := List.length_eq_three.mp hlength
    cases hp
    exact ⟨hread, by simpa [Vec3.isFinite, Scalar.isFinite, and_assoc] using hfinite⟩
  · intro hok
    obtain ⟨hread, hfinite⟩ := hok
    refine ⟨p.toList, numbers_ok_iff.mpr ⟨hread, rfl, ?_⟩, rfl⟩
    simpa [Vec3.toList, Vec3.isFinite, Scalar.isFinite, and_assoc] using hfinite

theorem exists_vector_iff : (∃ p, vector field v = .ok p) ↔ IsVector v := by
  simp only [vector_ok_iff]
  constructor
  · intro hvector
    obtain ⟨p, ⟨shape, hread⟩, hfinite⟩ := hvector
    exact ⟨shape, p, hread, hfinite⟩
  · intro hvector
    obtain ⟨shape, p, hread, hfinite⟩ := hvector
    exact ⟨p, ⟨shape, hread⟩, hfinite⟩

/-- What is made of the numbers of a field fails with no kind of its own. -/
theorem vector_failsAs_iff {kind : Fault.Kind} (hkind : .runtime ≠ kind) :
    FailsAs kind (vector field v) ↔ FailsAs kind (numbers field 3 v) := by
  refine failsAs_bind_iff_left .runtime hkind fun xs => ?_
  cases Vec3.ofList? xs with
  | some p => exact .ok p
  | none => exact .error rfl

theorem quaternion_failsAs_iff {kind : Fault.Kind} (hkind : .runtime ≠ kind) :
    FailsAs kind (quaternion field v) ↔ FailsAs kind (numbers field 4 v) := by
  refine failsAs_bind_iff_left .runtime hkind fun xs => ?_
  cases Quaternion.ofList? xs with
  | some q => exact .ok q
  | none => exact .error rfl

theorem vector_kinds : FailsWith IsEntryKind (vector field v) := by
  refine .bind numbers_kinds fun xs _ => ?_
  cases Vec3.ofList? xs with
  | some p => exact .ok p
  | none => exact .error (.inl rfl)

theorem quaternion_kinds : FailsWith IsEntryKind (quaternion field v) := by
  refine .bind numbers_kinds fun xs _ => ?_
  cases Quaternion.ofList? xs with
  | some q => exact .ok q
  | none => exact .error (.inl rfl)

end Fields

/-! ## Ids -/

section Ids

variable {index : Int} {es : List (Value × Value)}

/-- The entry gives an id that can be written and is not blank. -/
def IsNamed (es : List (Value × Value)) : Prop :=
  ∃ v, Value.lookup "id" es = some v ∧ v ≠ .null ∧ v.isWritable = true ∧
    Text.isBlank v.text = false

theorem idOf_null (hid : Value.lookup "id" es = some .null) :
    idOf index es = .error (.landmarkWithoutId index) := by
  unfold idOf
  rw [hid]
  rfl

theorem idOf_given {v : Value} (hid : Value.lookup "id" es = some v) (hv : v ≠ .null) :
    idOf index es = if v.isWritable then
        if Text.isBlank v.text then .error (.landmarkWithoutId index) else .ok (Text.trim v.text)
      else .error Value.tooLong := by
  unfold idOf
  rw [hid, Option.getD_some]
  split
  next => exact absurd rfl hv
  next =>
    unfold Value.name
    by_cases hwritable : v.isWritable = true
    · rw [if_pos hwritable, if_pos hwritable]
      rfl
    · rw [if_neg hwritable, if_neg hwritable]
      rfl

theorem idOf_absent (hid : Value.lookup "id" es = none) :
    idOf index es = .error (.landmarkWithoutId index) := by
  unfold idOf
  rw [hid]
  rfl

theorem idOf_ok_iff {id : String} : idOf index es = .ok id ↔
    ∃ v, Value.lookup "id" es = some v ∧ v ≠ .null ∧ v.isWritable = true ∧
      Text.isBlank v.text = false ∧ Text.trim v.text = id := by
  cases hid : Value.lookup "id" es with
  | none => simp [idOf_absent hid]
  | some v =>
      by_cases hv : v = .null
      · rw [hv] at hid
        simp [hv, idOf_null hid]
      · rw [idOf_given hid hv]
        by_cases hwritable : v.isWritable = true
        · cases hblank : Text.isBlank v.text <;> simp [hv, hwritable, hblank]
        · simp [hwritable]

theorem exists_idOf_iff : (∃ id, idOf index es = .ok id) ↔ IsNamed es := by
  simp only [idOf_ok_iff]
  constructor
  · intro hid
    obtain ⟨id, v, hv, hnull, hwritable, hblank, _⟩ := hid
    exact ⟨v, hv, hnull, hwritable, hblank⟩
  · intro hnamed
    obtain ⟨v, hv, hnull, hwritable, hblank⟩ := hnamed
    exact ⟨_, v, hv, hnull, hwritable, hblank, rfl⟩

theorem idOf_value_iff : FailsAs .value (idOf index es) ↔
    ∃ v, Value.lookup "id" es = some v ∧ v.isWritable = false := by
  cases hid : Value.lookup "id" es with
  | none =>
      rw [idOf_absent hid]
      exact iff_of_false (not_failsAs nofun) nofun
  | some v =>
      by_cases hv : v = .null
      · rw [hv] at hid
        rw [idOf_null hid]
        exact iff_of_false (not_failsAs nofun) (by simp [hv, Value.isWritable])
      · rw [idOf_given hid hv]
        by_cases hwritable : v.isWritable = true
        · rw [if_pos hwritable]
          refine iff_of_false (not_failsAs_of_kind .runtime nofun ?_) (by simp [hwritable])
          exact .ite (.error rfl) (.ok _)
        · rw [if_neg hwritable]
          exact iff_of_true ⟨_, rfl, rfl⟩ (by simpa using hwritable)

theorem idOf_kinds : FailsWith (fun f => f.kind = .runtime ∨ f.kind = .value) (idOf index es) := by
  unfold idOf
  split
  next => exact .error (.inl rfl)
  next =>
    refine .bind (.ite (.ok _) (.error (.inr rfl))) fun name _ => ?_
    exact .ite (.error (.inl rfl)) (.ok _)

end Ids

/-! ## Rotations -/

section Rotations

variable {α : Type} [Scalar α] {id field : String} {es : List (Value × Value)} {v : Value}

theorem orientationOf_overflow_iff :
    FailsAs .overflow (orientationOf field v : Except Fault (Mat3 α)) ↔ MeetsHuge v := by
  rw [← numbers_overflow_iff, ← quaternion_failsAs_iff (by decide)]
  refine failsAs_bind_iff_left .value (by decide) fun q => ?_
  cases (q.map Scalar.ofFloat : Quaternion α).toMatrix? with
  | some m => exact .ok m
  | none => exact .error rfl

theorem orientationOf_kinds :
    FailsWith IsEntryKind (orientationOf field v : Except Fault (Mat3 α)) := by
  refine .bind quaternion_kinds fun q _ => ?_
  cases (q.map Scalar.ofFloat : Quaternion α).toMatrix? with
  | some m => exact .ok m
  | none => exact .error (.inr (.inl rfl))

/-- A bad value becomes a fault of the entry, and no other fault changes. -/
theorem orientationFault_kind (f : Fault) :
    f.kind.isValue = true ∧ (orientationFault f).kind = .runtime ∨
      f.kind.isValue = false ∧ orientationFault f = f := by
  unfold orientationFault
  by_cases hvalue : f.kind.isValue = true
  · exact .inl ⟨hvalue, by rw [if_pos hvalue]; rfl⟩
  · exact .inr ⟨Bool.not_eq_true _ ▸ hvalue, if_neg hvalue⟩

theorem mapError_overflow_iff {β : Type} {x : Except Fault β} :
    FailsAs .overflow (x.mapError orientationFault) ↔ FailsAs .overflow x := by
  cases x with
  | ok b => exact iff_of_false (not_failsAs_ok b) (not_failsAs_ok b)
  | error f =>
      have hkind : (orientationFault f).kind = .overflow ↔ f.kind = .overflow := by
        rcases orientationFault_kind f with ⟨hvalue, hruntime⟩ | ⟨_, hsame⟩
        · rw [hruntime]
          refine iff_of_false nofun fun hoverflow => ?_
          rw [hoverflow] at hvalue
          cases hvalue
        · rw [hsame]
      simpa [Except.mapError, FailsAs] using hkind

theorem not_mapError_value {β : Type} {x : Except Fault β} :
    ¬ FailsAs .value (x.mapError orientationFault) := by
  cases x with
  | ok b => exact not_failsAs_ok b
  | error f =>
      refine not_failsAs fun hkind => ?_
      rcases orientationFault_kind f with ⟨_, hruntime⟩ | ⟨hvalue, hsame⟩
      · cases hruntime.symm.trans hkind
      · rw [← hsame, hkind] at hvalue
        cases hvalue

/-- The rotation of the entry is read from this vector. -/
def TurnsByVector (es : List (Value × Value)) (v : Value) : Prop :=
  Value.lookup "rvec" es = some v ∧ Value.lookup "orientation_xyzw" es = none

/-- The rotation of the entry is read from this quaternion. -/
def TurnsByQuaternion (es : List (Value × Value)) (v : Value) : Prop :=
  Value.lookup "rvec" es = none ∧ Value.lookup "orientation_xyzw" es = some v

theorem rotationOf_failsAs_iff {kind : Fault.Kind} (hkind : .runtime ≠ kind) :
    FailsAs kind (rotationOf id es : Except Fault (Mat3 α)) ↔
      (∃ r, TurnsByVector es r ∧ FailsAs kind (vector ("landmarks[" ++ id ++ "]." ++ "rvec") r)) ∨
        Value.lookup "rvec" es = none ∧
          FailsAs kind ((orientationOf ("landmarks[" ++ id ++ "]." ++ "orientation_xyzw")
            ((Value.lookup "orientation_xyzw" es).getD noRotation) :
              Except Fault (Mat3 α)).mapError orientationFault) := by
  unfold rotationOf TurnsByVector
  dsimp only
  cases hrvec : Value.lookup "rvec" es with
  | some r =>
      cases horientation : Value.lookup "orientation_xyzw" es with
      | some q =>
          refine iff_of_false (not_failsAs hkind) ?_
          simp
      | none =>
          refine (failsAs_bind_iff_left .runtime hkind fun p => .ok _).trans ?_
          simp
  | none => simp

theorem not_meetsHuge_noRotation : ¬ MeetsHuge noRotation := by
  intro hhuge
  cases ofValue_tooLarge_iff.mpr hhuge

theorem rotationOf_overflow_iff : FailsAs .overflow (rotationOf id es : Except Fault (Mat3 α)) ↔
    ∃ v, (TurnsByVector es v ∨ TurnsByQuaternion es v) ∧ MeetsHuge v := by
  rw [rotationOf_failsAs_iff (by decide)]
  simp only [vector_failsAs_iff (show Fault.Kind.runtime ≠ .overflow by decide),
    numbers_overflow_iff, mapError_overflow_iff, orientationOf_overflow_iff,
    holds_getD_iff not_meetsHuge_noRotation, or_and_right, exists_or, TurnsByQuaternion, and_assoc,
    exists_and_left]

theorem rotationOf_value_iff : FailsAs .value (rotationOf id es : Except Fault (Mat3 α)) ↔
    ∃ v, TurnsByVector es v ∧ IsUnshowable v := by
  rw [rotationOf_failsAs_iff (by decide)]
  simp only [vector_failsAs_iff (show Fault.Kind.runtime ≠ .value by decide), numbers_value_iff,
    not_mapError_value, and_false, or_false]

theorem rotationOf_kinds : FailsWith IsEntryKind (rotationOf id es : Except Fault (Mat3 α)) := by
  unfold rotationOf
  dsimp only
  split
  next => exact .error (.inl rfl)
  next => exact .bind vector_kinds fun _ _ => .ok _
  next =>
    refine orientationOf_kinds.mapError fun f hf => ?_
    rcases orientationFault_kind f with ⟨_, hruntime⟩ | ⟨_, hsame⟩
    · exact .inl hruntime
    · rw [hsame]
      exact hf

end Rotations

/-! ## Entries -/

section Entries

variable {α : Type} [Scalar α]

/-- The entry gives a position of three finite numbers. -/
def IsPlaced (es : List (Value × Value)) : Prop :=
  ∃ v, Value.lookup "position" es = some v ∧ IsVector v

/-- Reading the fields of an entry in order comes to a number beyond the doubles. -/
def FieldsMeetHuge (es : List (Value × Value)) : Prop :=
  IsNamed es ∧ ((∃ v, Value.lookup "position" es = some v ∧ MeetsHuge v) ∨
    IsPlaced es ∧ ∃ v, (TurnsByVector es v ∨ TurnsByQuaternion es v) ∧ MeetsHuge v)

/-- Reading the fields of an entry in order comes to an id that cannot be written, or to a position
or a vector that would have to be shown. -/
def FieldsUnwritable (es : List (Value × Value)) : Prop :=
  (∃ v, Value.lookup "id" es = some v ∧ v.isWritable = false) ∨
    IsNamed es ∧ ((∃ v, Value.lookup "position" es = some v ∧ IsUnshowable v) ∨
      IsPlaced es ∧ ∃ v, TurnsByVector es v ∧ IsUnshowable v)

theorem not_meetsHuge_null : ¬ MeetsHuge .null := by
  intro hhuge
  cases ofValue_tooLarge_iff.mpr hhuge

theorem not_isUnshowable_null : ¬ IsUnshowable .null := by
  intro hunshowable
  cases hunshowable.2

theorem not_isVector_null : ¬ IsVector .null := by
  intro hvector
  obtain ⟨shape, p, hread, _⟩ := hvector
  have hsize := congrArg (fun t => t.data.length) (Except.ok.inj hread)
  cases hsize

/-- The fields of an entry fail in order. -/
theorem entryOf_failsAs_iff {index : Int} {es : List (Value × Value)} {kind : Fault.Kind} :
    FailsAs kind (entryOf index (.map es) : Except Fault (Landmark α)) ↔
      FailsAs kind (idOf index es) ∨ ∃ id, idOf index es = .ok id ∧
        (FailsAs kind (vector ("landmarks[" ++ id ++ "].position")
            ((Value.lookup "position" es).getD .null)) ∨
          IsPlaced es ∧ FailsAs kind (rotationOf id es : Except Fault (Mat3 α))) := by
  have hplaced (field : String) :
      (∃ p, vector field ((Value.lookup "position" es).getD .null) = .ok p) ↔ IsPlaced es :=
    exists_vector_iff.trans (holds_getD_iff not_isVector_null)
  have hrigid (r : Mat3 α) (p : Vec3 Float) (id : String) : ¬ FailsAs kind
      (pure ⟨id, Transform.rigid r (p.map Scalar.ofFloat)⟩ : Except Fault (Landmark α)) :=
    not_failsAs_ok _
  simp only [entryOf, failsAs_bind_iff, hrigid, and_false, exists_false, or_false,
    exists_and_right, hplaced]

theorem entryOf_kinds {index : Int} {v : Value} :
    FailsWith IsEntryKind (entryOf index v : Except Fault (Landmark α)) := by
  unfold entryOf
  split
  next es =>
    refine .bind (idOf_kinds.mono fun f hf => hf.imp_right .inl) fun id _ => ?_
    refine .bind vector_kinds fun p _ => ?_
    refine .bind rotationOf_kinds fun r _ => ?_
    exact .ok _
  next => exact .error (.inl rfl)

theorem read_or_refused_iff {β : Type} {x : Except Fault β} (hkinds : FailsWith IsEntryKind x) :
    (∃ b, x = .ok b) ∨ FailsAs .runtime x ↔ ¬ FailsAs .overflow x ∧ ¬ FailsAs .value x := by
  cases x with
  | ok b => exact iff_of_true (.inl ⟨b, rfl⟩) ⟨not_failsAs_ok b, not_failsAs_ok b⟩
  | error f =>
      rcases hkinds f rfl with hkind | hkind | hkind <;> simp [FailsAs, hkind]

theorem entryOf_overflow_iff {index : Int} {es : List (Value × Value)} :
    FailsAs .overflow (entryOf index (.map es) : Except Fault (Landmark α)) ↔
      FieldsMeetHuge es := by
  have hid : ¬ FailsAs .overflow (idOf index es) := by
    intro hfails
    obtain ⟨f, hf, hkind⟩ := hfails
    rcases idOf_kinds f hf with hruntime | hvalue
    · cases hruntime.symm.trans hkind
    · cases hvalue.symm.trans hkind
  rw [entryOf_failsAs_iff, or_iff_right hid]
  simp only [vector_failsAs_iff (show Fault.Kind.runtime ≠ .overflow by decide),
    numbers_overflow_iff, rotationOf_overflow_iff, holds_getD_iff not_meetsHuge_null,
    exists_and_right, exists_idOf_iff, FieldsMeetHuge]

theorem entryOf_value_iff {index : Int} {es : List (Value × Value)} :
    FailsAs .value (entryOf index (.map es) : Except Fault (Landmark α)) ↔
      FieldsUnwritable es := by
  rw [entryOf_failsAs_iff, idOf_value_iff]
  simp only [vector_failsAs_iff (show Fault.Kind.runtime ≠ .value by decide), numbers_value_iff,
    rotationOf_value_iff, holds_getD_iff not_isUnshowable_null, exists_and_right, exists_idOf_iff,
    FieldsUnwritable]

/-- With which kinds of faults a value is refused as an entry, and when it is with each. -/
structure EntryContract (α : Type) [Scalar α] (index : Int) (v : Value) : Prop where
  kinds : FailsWith IsEntryKind (entryOf index v : Except Fault (Landmark α))
  overflow_iff : FailsAs .overflow (entryOf index v : Except Fault (Landmark α)) ↔
    ∃ es, v = .map es ∧ FieldsMeetHuge es
  value_iff : FailsAs .value (entryOf index v : Except Fault (Landmark α)) ↔
    ∃ es, v = .map es ∧ FieldsUnwritable es
  read_or_refused_iff : (∃ l, (entryOf index v : Except Fault (Landmark α)) = .ok l) ∨
      FailsAs .runtime (entryOf index v : Except Fault (Landmark α)) ↔
    ∀ es, v = .map es → ¬ FieldsMeetHuge es ∧ ¬ FieldsUnwritable es

/-- A value is a landmark or is refused with a fault of the entry, unless one of its fields meets a
number beyond the doubles or would have to be written and cannot be. -/
theorem entryOf_contract (index : Int) (v : Value) : EntryContract α index v := by
  have hmapping {kind : Fault.Kind} {P : List (Value × Value) → Prop} (hkind : .runtime ≠ kind)
      (hfields : ∀ es, FailsAs kind (entryOf index (.map es) : Except Fault (Landmark α)) ↔ P es) :
      FailsAs kind (entryOf index v : Except Fault (Landmark α)) ↔ ∃ es, v = .map es ∧ P es := by
    cases v with
    | map es => simpa using hfields es
    | _ => exact iff_of_false (not_failsAs hkind) nofun
  have hoverflow := hmapping (by decide) fun _ => entryOf_overflow_iff
  have hvalue := hmapping (by decide) fun _ => entryOf_value_iff
  refine ⟨entryOf_kinds, hoverflow, hvalue, ?_⟩
  rw [read_or_refused_iff entryOf_kinds, hoverflow, hvalue, not_exists, not_exists, ← forall_and]
  exact forall_congr' fun es => by rw [not_and, not_and, ← imp_and]

/-- A coordinate beyond the doubles is an overflow and no fault of the entry. -/
example : FailsAs .overflow (entryOf 0 (.map [(.str "id", .str "5"),
    (.str "position", .list [.int (2 ^ 1024), .int 0, .int 0])]) :
      Except Fault (Landmark Float)) := by
  have hbeyond : IsBeyondDoubles (.int (2 ^ 1024)) :=
    ⟨_, rfl, Option.isNone_iff_eq_none.mp (by decide +kernel)⟩
  have hhuge : MeetsHuge (.list [.int (2 ^ 1024), .int 0, .int 0]) :=
    ⟨[3], [], _, _, rfl, rfl, nofun, hbeyond⟩
  exact entryOf_overflow_iff.mpr ⟨⟨_, rfl, nofun, rfl, by decide⟩, .inl ⟨_, rfl, hhuge⟩⟩

end Entries
end LandmarkMap
end Fiducial
