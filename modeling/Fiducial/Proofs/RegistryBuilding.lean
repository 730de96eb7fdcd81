import Fiducial.Localizer.Basic
import Fiducial.Proofs.Failures

/-!
# How landmarks become a registry

Landmarks are added one by one, and as long as all went well the registry holds them all, in their
order and with distinct ids.  What comes next is added to it, or it repeats an id, or it is a fault
of the source itself, and then building stops for good.  A registry that is built answers every
question from the one list of landmarks, and a localizer takes it over only when it is complete.
-/

namespace Fiducial

variable {σ α : Type}

namespace Registry

/-! ## Adding one by one -/

theorem contains_iff {r : Registry α} {id : String} :
    r.contains id = true ↔ id ∈ r.landmarks.map (·.id) := by
  simp [contains]

theorem foldlM_distinct {ls : List (Landmark α)} {r : Registry α}
    (hdistinct : ((r.landmarks ++ ls).map (·.id)).Nodup)
    (rest : List (Except Fault (Landmark α))) :
    (ls.map Except.ok ++ rest).foldlM (fun (r : Registry α) l => l >>= r.add) r =
      rest.foldlM (fun (r : Registry α) l => l >>= r.add) ⟨r.landmarks ++ ls⟩ := by
  induction ls generalizing r with
  | nil => rw [List.append_nil, List.map_nil, List.nil_append]
  | cons l ls ih =>
      have hnew : ¬ r.contains l.id = true := by
        rw [contains_iff]
        intro hmem
        rw [List.map_append, List.map_cons] at hdistinct
        exact (List.nodup_append.mp hdistinct).2.2 l.id hmem l.id List.mem_cons_self rfl
      have hadd : r.add l = .ok ⟨r.landmarks ++ [l]⟩ := by
        unfold add
        rw [if_neg hnew]
      rw [List.map_cons, List.cons_append, List.foldlM_cons]
      change (r.add l >>= _) = _
      rw [hadd]
      change (ls.map Except.ok ++ rest).foldlM _ _ = _
      rw [ih (by simpa using hdistinct), List.append_assoc, List.singleton_append]

/-- Landmarks with distinct ids are all in the registry when the rest of the source is looked at. -/
theorem collect_distinct {ls : List (Landmark α)} (hdistinct : (ls.map (·.id)).Nodup)
    (rest : List (Except Fault (Landmark α))) :
    collect (ls.map .ok ++ rest) =
      rest.foldlM (fun (r : Registry α) l => l >>= r.add) ⟨ls⟩ :=
  foldlM_distinct (r := empty) hdistinct rest

theorem collect_map_ok (ls : List (Landmark α)) : collect (ls.map .ok) = build ls :=
  List.foldlM_map ..

/-! ## Where building stops -/

/-- The source stops at its first trouble, a landmark that repeats an id or a fault of its own. -/
inductive Stops (xs : List (Except Fault (Landmark α))) : Fault → Prop
  | repeated (before : List (Landmark α)) (l : Landmark α)
      (after : List (Except Fault (Landmark α))) (hxs : xs = before.map .ok ++ .ok l :: after)
      (hdistinct : (before.map (·.id)).Nodup) (hmem : l.id ∈ before.map (·.id)) :
      Stops xs (.duplicateLandmark l.id)
  | broken (before : List (Landmark α)) (f : Fault) (after : List (Except Fault (Landmark α)))
      (hxs : xs = before.map .ok ++ .error f :: after)
      (hdistinct : (before.map (·.id)).Nodup) : Stops xs f

variable {xs : List (Except Fault (Landmark α))} {r : Registry α} {f : Fault}

theorem Stops.append (hstops : Stops xs f) (ys : List (Except Fault (Landmark α))) :
    Stops (xs ++ ys) f := by
  cases hstops with
  | repeated before l after hxs hdistinct hmem =>
      exact .repeated before l (after ++ ys) (by simp [hxs]) hdistinct hmem
  | broken before f after hxs hdistinct =>
      exact .broken before f (after ++ ys) (by simp [hxs]) hdistinct

theorem Stops.collect_eq (hstops : Stops xs f) : collect xs = .error f := by
  cases hstops with
  | repeated before l after hxs hdistinct hmem =>
      have hadd : (⟨before⟩ : Registry α).add l = .error (.duplicateLandmark l.id) := by
        unfold add
        rw [if_pos (contains_iff.mpr hmem)]
      rw [hxs, collect_distinct hdistinct, List.foldlM_cons]
      change ((⟨before⟩ : Registry α).add l >>= _) = _
      rw [hadd]
      rfl
  | broken before f after hxs hdistinct =>
      rw [hxs, collect_distinct hdistinct, List.foldlM_cons]
      rfl

theorem distinct_or_stops (xs : List (Except Fault (Landmark α))) :
    (∃ ls : List (Landmark α), xs = ls.map .ok ∧ (ls.map (·.id)).Nodup) ∨ ∃ f, Stops xs f := by
  -- The induction is on the end of the source: what comes last decides only if all before it is
  -- well.
  induction xs using List.reverseRecOn with
  | nil => exact .inl ⟨[], rfl, List.nodup_nil⟩
  | append_singleton xs x ih =>
      rcases ih with ⟨ls, rfl, hdistinct⟩ | ⟨f, hstops⟩
      · cases x with
        | error f => exact .inr ⟨f, .broken ls f [] rfl hdistinct⟩
        | ok l =>
            by_cases hmem : l.id ∈ ls.map (·.id)
            · exact .inr ⟨_, .repeated ls l [] rfl hdistinct hmem⟩
            · refine .inl ⟨ls ++ [l], by rw [List.map_append]; rfl, ?_⟩
              rw [List.map_append]
              exact hdistinct.append (List.nodup_singleton _) (by simpa using hmem)
      · exact .inr ⟨f, hstops.append [x]⟩

theorem collect_ok_iff :
    collect xs = .ok r ↔ xs = r.landmarks.map .ok ∧ (r.landmarks.map (·.id)).Nodup := by
  constructor
  · intro hcollect
    rcases distinct_or_stops xs with ⟨ls, rfl, hdistinct⟩ | ⟨f, hstops⟩
    · have hls := collect_distinct hdistinct []
      rw [List.append_nil, hcollect] at hls
      cases hls
      exact ⟨rfl, hdistinct⟩
    · rw [hstops.collect_eq] at hcollect
      cases hcollect
  · rintro ⟨rfl, hdistinct⟩
    have hls := collect_distinct hdistinct []
    rwa [List.append_nil] at hls

theorem collect_error_iff : collect xs = .error f ↔ Stops xs f := by
  constructor
  · intro hcollect
    rcases distinct_or_stops xs with ⟨ls, rfl, hdistinct⟩ | ⟨g, hstops⟩
    · rw [(collect_ok_iff (r := ⟨ls⟩)).mpr ⟨rfl, hdistinct⟩] at hcollect
      cases hcollect
    · rw [hstops.collect_eq] at hcollect
      cases hcollect
      exact hstops
  · exact Stops.collect_eq

/-! ## Landmarks that are all there -/

/-- The landmark is the first of the list whose id occurred earlier. -/
def FirstRepeat (ls : List (Landmark α)) (l : Landmark α) : Prop :=
  ∃ before after, ls = before ++ l :: after ∧ (before.map (·.id)).Nodup ∧
    l.id ∈ before.map (·.id)

variable {ls : List (Landmark α)}

theorem map_ok_injective :
    Function.Injective (List.map (Except.ok (ε := Fault) (α := Landmark α))) :=
  List.map_injective_iff.mpr fun _ _ => Except.ok.inj

theorem stops_map_ok_iff :
    Stops (ls.map .ok) f ↔ ∃ l, FirstRepeat ls l ∧ f = .duplicateLandmark l.id := by
  constructor
  · intro hstops
    cases hstops with
    | repeated before l after hxs hdistinct hmem =>
        obtain ⟨first, rest, rfl, hfirst, hrest⟩ := List.map_eq_append_iff.mp hxs
        obtain ⟨m, rest, rfl, hm, _⟩ := List.map_eq_cons_iff.mp hrest
        cases hm
        obtain rfl := map_ok_injective hfirst
        exact ⟨l, ⟨first, rest, rfl, hdistinct, hmem⟩, rfl⟩
    | broken before f after hxs hdistinct =>
        obtain ⟨first, rest, rfl, _, hrest⟩ := List.map_eq_append_iff.mp hxs
        obtain ⟨m, rest, rfl, hm, _⟩ := List.map_eq_cons_iff.mp hrest
        cases hm
  · rintro ⟨l, ⟨before, after, rfl, hdistinct, hmem⟩, rfl⟩
    exact .repeated before l (after.map .ok) (by simp) hdistinct hmem

theorem build_ok_iff : build ls = .ok r ↔ r.landmarks = ls ∧ (ls.map (·.id)).Nodup := by
  rw [← collect_map_ok, collect_ok_iff]
  constructor
  · rintro ⟨hmap, hdistinct⟩
    obtain rfl := map_ok_injective hmap
    exact ⟨rfl, hdistinct⟩
  · rintro ⟨rfl, hdistinct⟩
    exact ⟨rfl, hdistinct⟩

theorem build_error_iff :
    build ls = .error f ↔ ∃ l, FirstRepeat ls l ∧ f = .duplicateLandmark l.id := by
  rw [← collect_map_ok, collect_error_iff, stops_map_ok_iff]

/-! ## Looking at a registry -/

theorem of_lookup {id : String} {l : Landmark α} (hfound : r.lookup id = some l) :
    l ∈ r.landmarks ∧ l.id = id :=
  ⟨List.mem_of_find?_eq_some hfound, by simpa using List.find?_some hfound⟩

theorem lookup_eq_some_iff (hdistinct : (r.landmarks.map (·.id)).Nodup) {id : String}
    {l : Landmark α} : r.lookup id = some l ↔ l ∈ r.landmarks ∧ l.id = id := by
  constructor
  · exact of_lookup
  · rintro ⟨hmem, rfl⟩
    have hexists : (r.lookup l.id).isSome = true := by
      rw [lookup, List.find?_isSome]
      exact ⟨l, hmem, decide_eq_true rfl⟩
    obtain ⟨m, hfound⟩ := Option.isSome_iff_exists.mp hexists
    obtain ⟨hm, hid⟩ := of_lookup hfound
    rw [hfound, List.inj_on_of_nodup_map hdistinct hm hmem hid]

theorem lookup_eq_none_iff {id : String} :
    r.lookup id = none ↔ ∀ l ∈ r.landmarks, l.id ≠ id := by
  simp [lookup]

theorem contains_iff_lookup {id : String} : r.contains id = true ↔ r.lookup id ≠ none := by
  rw [contains_iff, ne_eq, lookup_eq_none_iff]
  simp

theorem ids_perm (r : Registry α) : r.ids.Perm (r.landmarks.map (·.id)) := List.mergeSort_perm _ _

/-- The text comes earlier in the order of code points. -/
def CodePointLt (a b : String) : Prop := a.toList.map Char.toNat < b.toList.map Char.toNat

theorem ids_increasing (hdistinct : (r.landmarks.map (·.id)).Nodup) :
    r.ids.Pairwise CodePointLt := by
  have hsorted : r.ids.Pairwise (· ≤ ·) := by
    have htrans (a b c : String) (hab : decide (a ≤ b) = true) (hbc : decide (b ≤ c) = true) :
        decide (a ≤ c) = true :=
      decide_eq_true (String.le_trans (of_decide_eq_true hab) (of_decide_eq_true hbc))
    have htotal (a b : String) : (decide (a ≤ b) || decide (b ≤ a)) = true := by
      simpa using String.le_total a b
    have hle := List.pairwise_mergeSort htrans htotal (r.landmarks.map (·.id))
    simpa [ids] using hle
  have hne : r.ids.Nodup := r.ids_perm.nodup_iff.mpr hdistinct
  refine hsorted.imp₂ (fun a b hle hab => ?_) hne
  have hlt : a < b := String.not_le.mp fun hba => hab (String.le_antisymm hle hba)
  exact List.map_lt (fun _ _ h => h) (String.lt_iff.mp hlt)

/-- What a registry answers about the landmarks that it was built of. -/
structure Answers (r : Registry α) (ls : List (Landmark α)) : Prop where
  size : r.size = ls.length
  order : r.landmarks = ls
  ids_increasing : r.ids.Pairwise CodePointLt
  ids_perm : r.ids.Perm (ls.map (·.id))
  lookup_iff : ∀ id l, r.lookup id = some l ↔ l ∈ ls ∧ l.id = id
  unique : ∀ l ∈ ls, ∀ m ∈ ls, l.id = m.id → l = m
  lookup_none_iff : ∀ id, r.lookup id = none ↔ ∀ l ∈ ls, l.id ≠ id
  contains_iff : ∀ id, r.contains id = true ↔ r.lookup id ≠ none

theorem answers_of_build (hbuild : build ls = .ok r) : r.Answers ls := by
  obtain ⟨rfl, hdistinct⟩ := build_ok_iff.mp hbuild
  constructor
  case size => rfl
  case order => rfl
  case ids_increasing => exact ids_increasing hdistinct
  case ids_perm => exact ids_perm r
  case lookup_iff => exact fun _ _ => lookup_eq_some_iff hdistinct
  case unique => exact fun l hl m hm hsame => List.inj_on_of_nodup_map hdistinct hl hm hsame
  case lookup_none_iff => exact fun _ => lookup_eq_none_iff
  case contains_iff => exact fun _ => contains_iff_lookup

/-- When landmarks make a registry, what it answers then, and what is said otherwise. -/
structure Builds (ls : List (Landmark α)) : Prop where
  ok_iff : (∃ r, build ls = .ok r) ↔ (ls.map (·.id)).Nodup
  error_iff : ∀ f, build ls = .error f ↔ ∃ l, FirstRepeat ls l ∧ f = .duplicateLandmark l.id
  error_kind : ∀ f, build ls = .error f → f.kind = .value
  answers : ∀ r, build ls = .ok r → r.Answers ls

theorem builds (ls : List (Landmark α)) : Builds ls := by
  constructor
  case ok_iff =>
    simp only [build_ok_iff]
    exact ⟨fun ⟨_, _, hdistinct⟩ => hdistinct, fun hdistinct => ⟨⟨ls⟩, rfl, hdistinct⟩⟩
  case error_iff => exact fun _ => build_error_iff
  case error_kind =>
    intro f hf
    obtain ⟨l, _, rfl⟩ := build_error_iff.mp hf
    rfl
  case answers => exact fun _ => answers_of_build

end Registry

namespace Localizer

open Registry

/-- What becomes of the map of a localizer that is given the landmarks of a source. -/
structure Reloads (l : Localizer σ α) (xs : List (Except Fault (Landmark α))) : Prop where
  ok_iff : ∀ r, (setLandmarks l xs).result = .ok r ↔ ∃ ls, xs = ls.map .ok ∧ build ls = .ok r
  swapped : ∀ r, (setLandmarks l xs).result = .ok r →
    (setLandmarks l xs).state = { l with registry := l.registry.set (some r) } ∧
      (setLandmarks l xs).state.landmarks = r
  error_iff : ∀ f, (setLandmarks l xs).result = .error f ↔ Stops xs f
  kept : ∀ f, (setLandmarks l xs).result = .error f → (setLandmarks l xs).state = l
  /-- The source itself may fail after any number of landmarks, whatever they are. -/
  broken : ∀ (before : List (Landmark α)) f after, xs = before.map .ok ++ .error f :: after →
    (∃ g, (setLandmarks l xs).result = .error g) ∧ (setLandmarks l xs).state = l

theorem setLandmarks_result (l : Localizer σ α) (xs : List (Except Fault (Landmark α))) :
    (setLandmarks l xs).result = collect xs := by
  unfold setLandmarks
  cases collect xs <;> rfl

theorem setLandmarks_of_ok {l : Localizer σ α} {xs : List (Except Fault (Landmark α))}
    {r : Registry α} (hcollect : collect xs = .ok r) :
    (setLandmarks l xs).state = { l with registry := l.registry.set (some r) } := by
  unfold setLandmarks
  rw [hcollect]

theorem setLandmarks_of_error {l : Localizer σ α} {xs : List (Except Fault (Landmark α))}
    {f : Fault} (hcollect : collect xs = .error f) : (setLandmarks l xs).state = l := by
  unfold setLandmarks
  rw [hcollect]

theorem reloads (l : Localizer σ α) (xs : List (Except Fault (Landmark α))) : l.Reloads xs := by
  constructor
  case ok_iff =>
    intro r
    rw [setLandmarks_result, collect_ok_iff]
    constructor
    · rintro ⟨hxs, hdistinct⟩
      exact ⟨r.landmarks, hxs, build_ok_iff.mpr ⟨rfl, hdistinct⟩⟩
    · rintro ⟨ls, hxs, hbuild⟩
      obtain ⟨rfl, hdistinct⟩ := build_ok_iff.mp hbuild
      exact ⟨hxs, hdistinct⟩
  case swapped =>
    intro r hresult
    rw [setLandmarks_result] at hresult
    rw [setLandmarks_of_ok hresult]
    exact ⟨rfl, rfl⟩
  case error_iff =>
    intro f
    rw [setLandmarks_result, collect_error_iff]
  case kept =>
    intro f hresult
    rw [setLandmarks_result] at hresult
    exact setLandmarks_of_error hresult
  case broken =>
    intro before f after hxs
    rw [setLandmarks_result]
    cases hcollect : collect xs with
    | error g => exact ⟨⟨g, rfl⟩, setLandmarks_of_error hcollect⟩
    | ok r =>
        have hmem : .error f ∈ r.landmarks.map Except.ok := by
          rw [← (collect_ok_iff.mp hcollect).1, hxs]
          simp
        simp at hmem

/-- Landmarks with distinct ids, and no others, make a registry that answers from their list; a
localizer takes over a registry that is complete and otherwise stays as it was. -/
theorem registry_built_whole (ls : List (Landmark α)) (l : Localizer σ α)
    (xs : List (Except Fault (Landmark α))) : Registry.Builds ls ∧ l.Reloads xs :=
  ⟨Registry.builds ls, reloads l xs⟩

end Localizer
end Fiducial
