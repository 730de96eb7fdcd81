import Fiducial.Cell

/-!
# The writes to a cell

A cell is followed through any sequence of calls together with what they answer.  From the calls
and the answers alone it is seen which values were written; the version of the cell is the number
of these writes, and its value is that of the last one.  A write that is meant to happen once looks
at the value and not at the version, so it succeeds again after nothing has been written over
something.  Among writes of something only the first succeeds.
-/

namespace Fiducial.Cell

/-! ## Calls -/

inductive Call (α : Type) where
  | get
  | set (v : Option α)
  | setOnce (v : Option α)

inductive Answer (α : Type) where
  | value (v : Option α)
  | done
  | wrote (succeeded : Bool)

section Calls

variable {α : Type}

def perform (c : Cell α) : Call α → Answer α × Cell α
  | .get => (.value c.value, c)
  | .set v => (.done, c.set v)
  | .setOnce v => (.wrote (c.setOnce v).1, (c.setOnce v).2)

/-- The calls with what they answer. -/
def history (c : Cell α) : List (Call α) → List (Call α × Answer α)
  | [] => []
  | call :: calls => (call, (c.perform call).1) :: history (c.perform call).2 calls

def after (c : Cell α) (calls : List (Call α)) : Cell α :=
  calls.foldl (fun c call => (c.perform call).2) c

/-- The value that a call wrote, as its answer tells. -/
def written? : Call α × Answer α → Option (Option α)
  | (.set v, _) => some v
  | (.setOnce v, .wrote true) => some v
  | _ => none

/-- The values that were written to a cell; something that it holds from the start is one. -/
def writes (initial : Option α) (calls : List (Call α)) : List (Option α) :=
  initial.toList.map some ++ ((new initial).history calls).filterMap written?

/-- The value of the latest write. -/
def latest (initial : Option α) (calls : List (Call α)) : Option α :=
  (writes initial calls).getLast?.join

end Calls

/-! ## What a call does -/

section Runs

variable {α : Type} {c : Cell α} {v : Option α}

theorem setOnce_of_none (hempty : c.value = none) (v : Option α) :
    c.setOnce v = (true, c.set v) := by
  simp [setOnce, hempty]

theorem setOnce_of_ne_none (hfull : c.value ≠ none) (v : Option α) : c.setOnce v = (false, c) := by
  simp [setOnce, Option.isSome_iff_ne_none.mpr hfull]

theorem perform_setOnce_iff : (c.perform (.setOnce v)).1 = .wrote true ↔ c.value = none := by
  by_cases hempty : c.value = none
  · simp [perform, setOnce_of_none hempty, hempty]
  · simp [perform, setOnce_of_ne_none hempty, hempty]

/-- The calls that write do what a plain write does, and all others do nothing. -/
theorem perform_cell (c : Cell α) (call : Call α) :
    (c.perform call).2 =
      match written? (call, (c.perform call).1) with
      | some v => c.set v
      | none => c := by
  cases call with
  | get => rfl
  | set v => rfl
  | setOnce v =>
      by_cases hempty : c.value = none
      · simp [perform, setOnce_of_none hempty, written?]
      · simp [perform, setOnce_of_ne_none hempty, written?]

/-- The writes of some calls are counted, and the last of them is kept. -/
theorem after_eq (c : Cell α) (calls : List (Call α)) :
    c.after calls =
      ⟨((c.history calls).filterMap written?).getLast?.getD c.value,
        c.version + ((c.history calls).filterMap written?).length⟩ := by
  -- The rest of the calls begins at the cell that the first one leaves.
  induction calls generalizing c with
  | nil => rfl
  | cons call calls ih =>
      have hstep := perform_cell c call
      have hrest := ih (c.perform call).2
      rw [after, List.foldl_cons, ← after, hrest, history]
      cases hwritten : written? (call, (c.perform call).1) with
      | none =>
          rw [hwritten] at hstep
          rw [List.filterMap_cons_none hwritten, hstep]
      | some v =>
          rw [hwritten] at hstep
          rw [List.filterMap_cons_some hwritten, List.getLast?_cons, List.length_cons, hstep]
          simp [set, Nat.add_assoc, Nat.add_comm 1]

theorem after_append (c : Cell α) (calls more : List (Call α)) :
    c.after (calls ++ more) = (c.after calls).after more :=
  List.foldl_append ..

theorem version_le_after (c : Cell α) (calls : List (Call α)) :
    c.version ≤ (c.after calls).version := by
  rw [after_eq]
  exact Nat.le_add_right ..

/-- Once there is a value, writes that are meant to happen once are all refused. -/
theorem history_of_ne_none (hfull : c.value ≠ none) (later : List (Option α)) :
    c.history (later.map .setOnce) = later.map (fun v => (.setOnce v, .wrote false)) ∧
      c.after (later.map .setOnce) = c := by
  induction later with
  | nil => exact ⟨rfl, rfl⟩
  | cons v later ih =>
      have hrefused : c.perform (.setOnce v) = (.wrote false, c) := by
        simp [perform, setOnce_of_ne_none hfull]
      constructor
      · rw [List.map_cons, history, hrefused, ih.1, List.map_cons]
      · rw [List.map_cons, after, List.foldl_cons, hrefused]
        exact ih.2

end Runs

/-! ## Runs of a new cell -/

section Accounts

variable {α : Type} {initial : Option α} {calls : List (Call α)}

theorem after_new (initial : Option α) (calls : List (Call α)) :
    (new initial).after calls = ⟨latest initial calls, (writes initial calls).length⟩ := by
  rw [after_eq, latest, writes]
  cases initial with
  | none =>
      have hvalue (ws : List (Option α)) : ws.getLast?.getD none = ws.getLast?.join := by
        cases ws.getLast? <;> rfl
      simp only [new, Option.toList_none, List.map_nil, List.nil_append, hvalue]
      rw [Option.isSome_none, if_neg Bool.false_ne_true, Nat.zero_add]
  | some v =>
      simp only [new, Option.toList_some, List.map_singleton, List.singleton_append,
        List.getLast?_cons, List.length_cons, Option.join_some]
      rw [Option.isSome_some, if_pos rfl, Nat.add_comm]

/-- If all writes were of something, there is no value only if there was no write. -/
theorem latest_eq_none_iff (hsomething : ∀ v ∈ writes initial calls, v ≠ none) :
    latest initial calls = none ↔ (writes initial calls).length = 0 := by
  unfold latest
  cases hlast : (writes initial calls).getLast? with
  | none => simpa using hlast
  | some v =>
      have hmem := List.mem_of_getLast? hlast
      have hne : writes initial calls ≠ [] := List.ne_nil_of_mem hmem
      simp [hne, hsomething v hmem]

/-- How a cell stands after some calls, and what the next call finds. -/
structure Accounts (initial : Option α) (calls : List (Call α)) (c : Cell α) : Prop where
  version_eq : c.version = (writes initial calls).length
  version_le : ∀ more, c.version ≤ ((new initial).after (calls ++ more)).version
  get_eq : c.perform .get = (.value (latest initial calls), c)
  succeeds_iff : ∀ v, (c.perform (.setOnce v)).1 = .wrote true ↔ c.value = none
  refused : ∀ v, (c.perform (.setOnce v)).1 ≠ .wrote true →
    c.perform (.setOnce v) = (.wrote false, c)
  unwritten_iff : (∀ v ∈ writes initial calls, v ≠ none) →
    ∀ v, (c.perform (.setOnce v)).1 = .wrote true ↔ c.version = 0

theorem accounts_after (initial : Option α) (calls : List (Call α)) :
    Accounts initial calls ((new initial).after calls) := by
  constructor
  case version_eq => rw [after_new]
  case version_le =>
    intro more
    rw [after_append]
    exact version_le_after _ more
  case get_eq => rw [after_new, perform]
  case succeeds_iff => exact fun v => perform_setOnce_iff
  case refused =>
    intro v hrefused
    have hfull := mt perform_setOnce_iff.mpr hrefused
    rw [perform, setOnce_of_ne_none hfull]
  case unwritten_iff =>
    intro hsomething v
    rw [perform_setOnce_iff, after_new]
    exact latest_eq_none_iff hsomething

/-- A value that is written once into a cell with none keeps out all others. -/
structure KeepsFirst (first : α) (later : List (Option α)) : Prop where
  history_eq : (new none).history (.setOnce (some first) :: later.map .setOnce) =
    (.setOnce (some first), .wrote true) :: later.map fun v => (.setOnce v, .wrote false)
  after_eq : (new none).after (.setOnce (some first) :: later.map .setOnce) = ⟨some first, 1⟩

theorem keepsFirst (first : α) (later : List (Option α)) : KeepsFirst first later := by
  have hfirst : (new (none : Option α)).perform (.setOnce (some first)) =
      (.wrote true, ⟨some first, 1⟩) := rfl
  obtain ⟨hhistory, hafter⟩ :=
    history_of_ne_none (c := ⟨some first, 1⟩) (Option.some_ne_none first) later
  constructor
  case history_eq => rw [history, hfirst, hhistory]
  case after_eq =>
    rw [after, List.foldl_cons, hfirst]
    exact hafter

/-- Whatever is called, a cell counts its writes and holds what was written last, and of values that
are only written once it keeps the first. -/
theorem writes_accounted (initial : Option α) (calls : List (Call α)) (first : α)
    (later : List (Option α)) :
    Accounts initial calls ((new initial).after calls) ∧ KeepsFirst first later :=
  ⟨accounts_after initial calls, keepsFirst first later⟩

end Accounts

/-- After nothing has been written over something, the version is not zero and a write that is meant
to happen once succeeds. -/
example :
    ((new (some 1)).history [.setOnce (some 2), .set none, .setOnce (some 3), .get]).map Prod.snd =
      [.wrote false, .done, .wrote true, .value (some 3)] := rfl

end Fiducial.Cell
