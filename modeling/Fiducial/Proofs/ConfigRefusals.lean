import Fiducial.Proofs.LoadingFaults
import Fiducial.Proofs.UsableConfigs

/-!
# How a mapping is refused as a configuration

What is wrong with the keys comes first.  Keys that are no fields are put in order to be listed, so
they are refused as unknown only if they have an order and can be written.  Of a mapping with no
other than known fields, and none missing, the first check that fails decides: its fault is one of a
value, except where a whole number beyond the doubles is read.
-/

namespace Fiducial
namespace Config

/-! ## Keys that are no fields -/

def unknownKeys (es : List (Value × Value)) : List Value :=
  (es.map (·.1)).filter fun k => !isField fields k

/-- Any two of the keys can be compared. -/
def Comparable (keys : List Value) : Prop := keys.Pairwise fun a b => orderedWith a b = true

/-- The kinds of values that have an order among each other. -/
inductive OrderKind where
  | text
  | bytes
  | date
  | moment (aware : Bool)
  | number

def orderKind? : Value → Option OrderKind
  | .str _ => some .text
  | .bytes _ => some .bytes
  | .date .. => some .date
  | .moment m => some (.moment m.offset.isSome)
  | .bool _ | .int _ | .float _ => some .number
  | _ => none

theorem orderedWith_iff (a b : Value) :
    orderedWith a b = true ↔ orderKind? a = orderKind? b ∧ (orderKind? a).isSome = true := by
  cases a <;> cases b <;> simp [orderedWith, orderedWith.isNumber, orderKind?]

theorem orderedWith_of_common {k a b : Value} (ha : orderedWith k a = true)
    (hb : orderedWith k b = true) : orderedWith a b = true := by
  obtain ⟨hka, hsome⟩ := (orderedWith_iff k a).mp ha
  obtain ⟨hkb, _⟩ := (orderedWith_iff k b).mp hb
  exact (orderedWith_iff a b).mpr ⟨hka.symm.trans hkb, hka ▸ hsome⟩

/-- To compare all keys with the first is enough. -/
theorem comparable_cons_iff {k : Value} {ks : List Value} :
    Comparable (k :: ks) ↔ ks.all (orderedWith k) = true := by
  rw [Comparable, List.pairwise_cons, List.all_eq_true]
  constructor
  · exact And.left
  · -- Two keys that have an order with the first have one with each other.
    intro hfirst
    refine ⟨hfirst, List.pairwise_iff_forall_sublist.mpr fun {a b} hsub => ?_⟩
    have hmem := hsub.subset
    exact orderedWith_of_common (hfirst a (hmem (by simp))) (hfirst b (hmem (by simp)))

theorem sortKeys_cases (keys : List Value) :
    (Comparable keys ∧ ∃ names, names.Perm keys ∧ sortKeys? keys = some names) ∨
      (¬ Comparable keys ∧ sortKeys? keys = none) := by
  match keys with
  | [] => exact .inl ⟨List.Pairwise.nil, [], .refl _, rfl⟩
  | [k] => exact .inl ⟨List.pairwise_singleton _ _, [k], .refl _, rfl⟩
  | k :: l :: ks =>
      rw [comparable_cons_iff]
      change _ ∨ _ ∧ (if (l :: ks).all (orderedWith k) then _ else none) = none
      by_cases hall : (l :: ks).all (orderedWith k) = true
      · exact .inl ⟨hall, _, List.mergeSort_perm _ keyLe, if_pos hall⟩
      · exact .inr ⟨hall, if_neg hall⟩

theorem areWritable_iff {vs : List Value} :
    Value.areWritable vs = true ↔ ∀ v ∈ vs, v.isWritable = true := by
  induction vs with
  | nil => simp [Value.areWritable]
  | cons v vs ih => simp [Value.areWritable, ih]

/-! ## What can become of a mapping -/

/-- What the keys and the fields of a mapping make of it. -/
inductive Answer (es : List (Value × Value)) : Except Fault Config → Prop
  | incomparable {detail : String} (hunordered : ¬ Comparable (unknownKeys es)) :
      Answer es (.error (.wrongType detail))
  | unwritable (hunknown : unknownKeys es ≠ []) (hordered : Comparable (unknownKeys es))
      (hlong : ¬ ∀ k ∈ unknownKeys es, k.isWritable = true) : Answer es (.error Value.tooLong)
  | unknown {names : List Value} (hunknown : unknownKeys es ≠ [])
      (hordered : Comparable (unknownKeys es))
      (hwritable : ∀ k ∈ unknownKeys es, k.isWritable = true)
      (hnames : names.Perm (unknownKeys es)) : Answer es (.error (.unknownFields names))
  | missing {reason : String} (hknown : unknownKeys es = []) (hmissing : missingFields es ≠ []) :
      Answer es (.error (.badConfig reason))
  | refused {f : Fault} (hknown : unknownKeys es = []) (hcomplete : missingFields es = [])
      (hconstruct : construct es = .error f) : Answer es (.error (explain f))
  | accepted {c : Config} (hknown : unknownKeys es = []) (hcomplete : missingFields es = [])
      (hconstruct : construct es = .ok c) : Answer es (.ok c)

theorem unknownFault_of_known {es : List (Value × Value)} (hknown : unknownKeys es = []) :
    unknownFault (es.map (·.1)) = none := by
  unfold unknownFault
  split
  next => rfl
  next hnot => exact absurd hknown hnot

theorem unknownFault_of_unknown {es : List (Value × Value)} (hunknown : unknownKeys es ≠ []) :
    unknownFault (es.map (·.1)) =
      match sortKeys? (unknownKeys es) with
      | some names => some (if (Value.list names).isWritable then .unknownFields names
          else Value.tooLong)
      | none => some (.wrongType "'<' not supported between instances") := by
  unfold unknownFault
  split
  next hnil => exact absurd hnil hunknown
  next => rfl

theorem answer_of_unknown {es : List (Value × Value)} (hunknown : unknownKeys es ≠ []) :
    ∃ f, unknownFault (es.map (·.1)) = some f ∧ Answer es (.error f) := by
  rw [unknownFault_of_unknown hunknown]
  rcases sortKeys_cases (unknownKeys es) with ⟨hordered, names, hnames, hsort⟩ | ⟨hnot, hsort⟩
  · have hlist : (Value.list names).isWritable = true ↔
        ∀ k ∈ unknownKeys es, k.isWritable = true := by
      rw [Value.isWritable, areWritable_iff]
      exact forall_congr' fun k => by rw [hnames.mem_iff]
    rw [hsort]
    refine ⟨_, rfl, ?_⟩
    split
    next hwritable => exact .unknown hunknown hordered (hlist.mp hwritable) hnames
    next hlong => exact .unwritable hunknown hordered (hlong ∘ hlist.mpr)
  · rw [hsort]
    exact ⟨_, rfl, .incomparable hnot⟩

theorem ofEntries_answer (es : List (Value × Value)) : Answer es (ofEntries es) := by
  unfold ofEntries
  by_cases hknown : unknownKeys es = []
  · rw [unknownFault_of_known hknown]
    dsimp only
    split
    next hcomplete =>
      cases hconstruct : construct es with
      | ok c => exact .accepted hknown hcomplete hconstruct
      | error f => exact .refused hknown hcomplete hconstruct
    next hmissing => exact .missing hknown hmissing
  · obtain ⟨f, hfault, hanswer⟩ := answer_of_unknown hknown
    rw [hfault]
    exact hanswer

/-! ## Numbers beyond the doubles -/

/-- The value is a whole number that no double stands for. -/
def IsBeyondDoubles (v : Value) : Prop := ∃ n, v = .int n ∧ Binary.ofInt? n = none

/-- Reading what a check looks at comes to a number beyond the doubles before anything else is
wrong. -/
def Check.MeetsHuge (es : List (Value × Value)) : Check → Prop
  | covariance | covarianceSize | covarianceFinite => ∃ before v after,
      (fieldOf es "base_covariance").items = .ok (before ++ v :: after) ∧
        (∀ u ∈ before, ∃ x, u.toFloat = .ok x) ∧ IsBeyondDoubles v
  | positive field => IsBeyondDoubles (fieldOf es field)
  | minMarkerSize => IsBeyondDoubles (fieldOf es "min_marker_size")
  | targets | detectionMode | transforms | anyTarget | frame _ => False

theorem tooLarge_iff_false {β : Type} {x : Except Fault β}
    (hx : FailsWith (Fault.IsMisfit False) x) : x = .error .tooLarge ↔ False := by
  refine ⟨fun hlarge => ?_, False.elim⟩
  rcases hx .tooLarge hlarge with hvalue | htype | ⟨_, hfalse⟩
  · cases hvalue
  · cases htype
  · exact hfalse

theorem toFloat_tooLarge_iff {v : Value} :
    v.toFloat = .error .tooLarge ↔ IsBeyondDoubles v := by
  cases v with
  | int n =>
      simp only [Value.toFloat, IsBeyondDoubles]
      cases hdouble : Binary.ofInt? n <;> simp [hdouble]
  | str s =>
      simp only [Value.toFloat, IsBeyondDoubles]
      cases Decimal.readFloat? s <;> simp
  | bytes d =>
      simp only [Value.toFloat, IsBeyondDoubles]
      cases Value.bytesFloat? d <;> simp
  | _ => simp [Value.toFloat, IsBeyondDoubles]

theorem outcome_mapM {β γ : Type} {g : β → Except Fault γ} {bs : List β} :
    outcome (bs.mapM g) = forM bs fun b => outcome (g b) := by
  induction bs with
  | nil => rfl
  | cons b bs ih =>
      rw [List.mapM_cons, List.forM_cons]
      refine outcome_bind rfl fun c _ => ?_
      rw [← ih]
      cases bs.mapM g <;> rfl

theorem mapM_error_iff {β γ : Type} {g : β → Except Fault γ} {bs : List β} {f : Fault} :
    bs.mapM g = .error f ↔ ∃ before b after, bs = before ++ b :: after ∧
      (∀ a ∈ before, ∃ c, g a = .ok c) ∧ g b = .error f := by
  rw [← outcome_error_iff, outcome_mapM, forM_error_iff]
  simp only [outcome_error_iff, outcome_ok_iff]

theorem numbersOf_tooLarge_iff {v : Value} :
    numbersOf v = .error .tooLarge ↔ ∃ before u after, v.items = .ok (before ++ u :: after) ∧
      (∀ w ∈ before, ∃ x, w.toFloat = .ok x) ∧ IsBeyondDoubles u := by
  unfold numbersOf
  rw [bind_error_iff, tooLarge_iff_false v.items_misfit, false_or]
  simp only [mapM_error_iff, toFloat_tooLarge_iff]
  constructor
  · rintro ⟨_, hitems, before, u, after, rfl, hread⟩
    exact ⟨before, u, after, hitems, hread⟩
  · rintro ⟨before, u, after, hitems, hread⟩
    exact ⟨_, hitems, before, u, after, rfl, hread⟩

theorem measure_tooLarge_iff {v : Value} :
    Measure.ofValue v = .error .tooLarge ↔ IsBeyondDoubles v := by
  rw [← toFloat_tooLarge_iff]
  unfold Measure.ofValue
  split
  next x hx => simp [hx]
  next f hf => simp [hf]

/-- A check after a reading is no second source of numbers beyond the doubles. -/
theorem bind_tooLarge_iff {β γ : Type} {x : Except Fault β} {g : β → Except Fault γ}
    (hg : ∀ b, FailsWith (Fault.IsMisfit False) (g b)) :
    (x >>= g) = .error .tooLarge ↔ x = .error .tooLarge := by
  rw [bind_error_iff]
  refine or_iff_left ?_
  rintro ⟨b, _, hlarge⟩
  exact (tooLarge_iff_false (hg b)).mp hlarge

theorem Check.run_tooLarge_iff (es : List (Value × Value)) (check : Check) :
    check.run es = .error .tooLarge ↔ check.MeetsHuge es := by
  cases check with
  | targets => exact tooLarge_iff_false ((idsOf_misfit _).map _)
  | covariance => exact outcome_error_iff.trans numbersOf_tooLarge_iff
  | detectionMode => exact tooLarge_iff_false ((detectionMode_misfit _).map _)
  | transforms => exact tooLarge_iff_false ((transformsOf_misfit _).map _)
  | anyTarget =>
      exact tooLarge_iff_false (.bind (idsOf_misfit _) fun _ _ => .ite (.error (.inl rfl)) (.ok _))
  | covarianceSize =>
      exact (bind_tooLarge_iff fun xs => (covariance_misfit xs).map _).trans numbersOf_tooLarge_iff
  | covarianceFinite =>
      exact (bind_tooLarge_iff fun _ => .ite (.error (.inl rfl)) (.ok _)).trans
        numbersOf_tooLarge_iff
  | positive field =>
      exact outcome_error_iff.trans
        ((bind_tooLarge_iff fun _ => .ite (.error (.inl rfl)) (.ok _)).trans measure_tooLarge_iff)
  | minMarkerSize =>
      exact outcome_error_iff.trans
        ((bind_tooLarge_iff fun _ => .ite (.error (.inl rfl)) (.ok _)).trans measure_tooLarge_iff)
  | frame field =>
      exact tooLarge_iff_false
        (.bind (Value.name_misfit _) fun _ _ => .ite (.error (.inl rfl)) (.ok _))

/-! ## The kinds of faults -/

/-- The computation fails, and with a fault of this kind. -/
def FailsAs {β : Type} (kind : Fault.Kind) (x : Except Fault β) : Prop :=
  ∃ f, x = .error f ∧ f.kind = kind

theorem not_failsAs {β : Type} {kind : Fault.Kind} {f : Fault} (hkind : f.kind ≠ kind) :
    ¬ FailsAs kind (.error f : Except Fault β) := by
  rintro ⟨_, ⟨⟩, hf⟩
  exact hkind hf

theorem not_failsAs_ok {β : Type} {kind : Fault.Kind} (b : β) :
    ¬ FailsAs kind (.ok b : Except Fault β) := by
  rintro ⟨f, ⟨⟩, _⟩

/-- The first check that fails reads a number beyond the doubles. -/
def FirstMeetsHuge (es : List (Value × Value)) : Prop :=
  ∃ before check after, Check.all = before ++ check :: after ∧ (∀ c ∈ before, c.Holds es) ∧
    check.MeetsHuge es

theorem firstMeetsHuge_iff {es : List (Value × Value)} :
    FirstMeetsHuge es ↔ construct es = .error .tooLarge := by
  rw [construct_error_iff]
  simp only [Check.run_ok_iff, Check.run_tooLarge_iff, FirstMeetsHuge]

theorem kind_explain {es : List (Value × Value)} {f : Fault} (hfails : construct es = .error f) :
    (explain f).kind = .value ∨ f = .tooLarge := by
  rcases construct_misfit es f hfails with hvalue | htype | ⟨rfl, _⟩
  · left
    have hkept : f.kind ≠ .type := by simp [hvalue]
    rw [explain, if_neg hkept, hvalue]
  · left
    rw [explain, if_pos htype]
    rfl
  · exact .inr rfl

/-- Which mappings have a configuration, and with which kinds of faults the others are refused. -/
structure ErrorContract (es : List (Value × Value)) : Prop where
  returns_iff : (∃ c, ofEntries es = .ok c) ↔
    unknownKeys es = [] ∧ missingFields es = [] ∧ ∀ check ∈ Check.all, check.Holds es
  key_iff : FailsAs .key (ofEntries es) ↔ unknownKeys es ≠ [] ∧ Comparable (unknownKeys es) ∧
    ∀ k ∈ unknownKeys es, k.isWritable = true
  type_iff : FailsAs .type (ofEntries es) ↔ ¬ Comparable (unknownKeys es)
  overflow_iff : FailsAs .overflow (ofEntries es) ↔
    unknownKeys es = [] ∧ missingFields es = [] ∧ FirstMeetsHuge es
  kinds : ∀ f, ofEntries es = .error f →
    f.kind = .value ∨ f.kind = .key ∨ f.kind = .type ∨ f.kind = .overflow

section Answers

variable {es : List (Value × Value)} {r : Except Fault Config}

theorem comparable_of_known (hknown : unknownKeys es = []) : Comparable (unknownKeys es) := by
  rw [hknown]
  exact List.Pairwise.nil

theorem Answer.returns_iff (hanswer : Answer es r) : (∃ c, r = .ok c) ↔
    unknownKeys es = [] ∧ missingFields es = [] ∧ ∃ c, construct es = .ok c := by
  cases hanswer with
  | incomparable hunordered =>
      exact iff_of_false nofun fun ⟨hknown, _⟩ => hunordered (comparable_of_known hknown)
  | unwritable hunknown _ _ => exact iff_of_false nofun fun ⟨hknown, _⟩ => hunknown hknown
  | unknown hunknown _ _ _ => exact iff_of_false nofun fun ⟨hknown, _⟩ => hunknown hknown
  | missing _ hmissing => exact iff_of_false nofun fun ⟨_, hcomplete, _⟩ => hmissing hcomplete
  | refused _ _ hconstruct =>
      refine iff_of_false nofun fun ⟨_, _, c, hc⟩ => ?_
      cases hconstruct.symm.trans hc
  | accepted hknown hcomplete hconstruct =>
      exact iff_of_true ⟨_, rfl⟩ ⟨hknown, hcomplete, _, hconstruct⟩

theorem Answer.key_iff (hanswer : Answer es r) : FailsAs .key r ↔ unknownKeys es ≠ [] ∧
    Comparable (unknownKeys es) ∧ ∀ k ∈ unknownKeys es, k.isWritable = true := by
  cases hanswer with
  | incomparable hunordered =>
      exact iff_of_false (not_failsAs nofun) fun ⟨_, hordered, _⟩ => hunordered hordered
  | unwritable _ _ hlong =>
      exact iff_of_false (not_failsAs nofun) fun ⟨_, _, hwritable⟩ => hlong hwritable
  | unknown hunknown hordered hwritable _ =>
      exact iff_of_true ⟨_, rfl, rfl⟩ ⟨hunknown, hordered, hwritable⟩
  | missing hknown _ =>
      exact iff_of_false (not_failsAs nofun) fun ⟨hunknown, _⟩ => hunknown hknown
  | refused hknown _ hconstruct =>
      refine iff_of_false (not_failsAs ?_) fun ⟨hunknown, _⟩ => hunknown hknown
      rcases kind_explain hconstruct with hvalue | rfl
      · simp [hvalue]
      · nofun
  | accepted hknown _ _ =>
      exact iff_of_false (not_failsAs_ok _) fun ⟨hunknown, _⟩ => hunknown hknown

theorem Answer.type_iff (hanswer : Answer es r) :
    FailsAs .type r ↔ ¬ Comparable (unknownKeys es) := by
  cases hanswer with
  | incomparable hunordered => exact iff_of_true ⟨_, rfl, rfl⟩ hunordered
  | unwritable _ hordered _ => exact iff_of_false (not_failsAs nofun) (not_not_intro hordered)
  | unknown _ hordered _ _ => exact iff_of_false (not_failsAs nofun) (not_not_intro hordered)
  | missing hknown _ =>
      exact iff_of_false (not_failsAs nofun) (not_not_intro (comparable_of_known hknown))
  | refused hknown _ hconstruct =>
      refine iff_of_false (not_failsAs ?_) (not_not_intro (comparable_of_known hknown))
      rcases kind_explain hconstruct with hvalue | rfl
      · simp [hvalue]
      · nofun
  | accepted hknown _ _ =>
      exact iff_of_false (not_failsAs_ok _) (not_not_intro (comparable_of_known hknown))

theorem Answer.overflow_iff (hanswer : Answer es r) : FailsAs .overflow r ↔
    unknownKeys es = [] ∧ missingFields es = [] ∧ construct es = .error .tooLarge := by
  cases hanswer with
  | incomparable hunordered =>
      exact iff_of_false (not_failsAs nofun) fun ⟨hknown, _⟩ =>
        hunordered (comparable_of_known hknown)
  | unwritable hunknown _ _ =>
      exact iff_of_false (not_failsAs nofun) fun ⟨hknown, _⟩ => hunknown hknown
  | unknown hunknown _ _ _ =>
      exact iff_of_false (not_failsAs nofun) fun ⟨hknown, _⟩ => hunknown hknown
  | missing _ hmissing =>
      exact iff_of_false (not_failsAs nofun) fun ⟨_, hcomplete, _⟩ => hmissing hcomplete
  | refused hknown hcomplete hconstruct =>
      rcases kind_explain hconstruct with hvalue | rfl
      · refine iff_of_false (not_failsAs (by simp [hvalue])) fun ⟨_, _, hlarge⟩ => ?_
        cases hconstruct.symm.trans hlarge
        cases hvalue
      · exact iff_of_true ⟨_, rfl, rfl⟩ ⟨hknown, hcomplete, hconstruct⟩
  | accepted _ _ hconstruct =>
      refine iff_of_false (not_failsAs_ok _) fun ⟨_, _, hlarge⟩ => ?_
      cases hconstruct.symm.trans hlarge

theorem Answer.kinds {f : Fault} (hanswer : Answer es (.error f)) :
    f.kind = .value ∨ f.kind = .key ∨ f.kind = .type ∨ f.kind = .overflow := by
  cases hanswer with
  | incomparable _ => exact .inr (.inr (.inl rfl))
  | unwritable _ _ _ => exact .inl rfl
  | unknown _ _ _ _ => exact .inr (.inl rfl)
  | missing _ _ => exact .inl rfl
  | refused _ _ hconstruct =>
      rcases kind_explain hconstruct with hvalue | rfl
      · exact .inl hvalue
      · exact .inr (.inr (.inr rfl))

end Answers

/-- Every mapping has a configuration or is refused with a fault of one of four kinds, and the keys
and fields say which. -/
theorem ofEntries_errorContract (es : List (Value × Value)) : ErrorContract es := by
  have hanswer := ofEntries_answer es
  constructor
  case returns_iff => rw [hanswer.returns_iff, exists_construct_iff_holds]
  case key_iff => exact hanswer.key_iff
  case type_iff => exact hanswer.type_iff
  case overflow_iff => rw [hanswer.overflow_iff, firstMeetsHuge_iff]
  case kinds =>
    intro f hf
    exact Answer.kinds (hf ▸ hanswer)

/-- Keys of two kinds are no fields, but have no order in which to be listed. -/
example : FailsAs .type (ofEntries [(.int 1, .null), (.str "b", .null)]) := ⟨_, rfl, rfl⟩

end Config
end Fiducial
