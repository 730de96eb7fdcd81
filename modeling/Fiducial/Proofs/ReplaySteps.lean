import Fiducial.Replay.Basic
import Mathlib.Tactic

/-!
# Steps of a replay

A step counts its event, does what the type of the event asks for, and turns a fault in the content
into a report.  A run is a chain of steps, so it returns exactly if each of its parts does.  A
replay is the run over its events from the state in which its map is loaded.
-/

namespace Fiducial
namespace Replay

variable {σ α : Type}

def State.numbered (n : Nat) (s : State σ α) : State σ α := { s with events := n }

@[simp] theorem State.numbered_localizer (n : Nat) (s : State σ α) :
    (s.numbered n).localizer = s.localizer := rfl

@[simp] theorem State.numbered_events (n : Nat) (s : State σ α) :
    (s.numbered n).events = n := rfl

@[simp] theorem State.numbered_numbered (m n : Nat) (s : State σ α) :
    (s.numbered m).numbered n = s.numbered n := rfl

@[simp] theorem State.numbered_self (s : State σ α) : s.numbered s.events = s := rfl

theorem Progress.returns_of_isOk {p : Progress σ α} (hok : p.outcome.isOk = true) :
    p.outcome = .ok () := by
  cases houtcome : p.outcome with
  | ok u => rfl
  | error f =>
      rw [houtcome] at hok
      cases hok

/-! ## The state at the start -/

/-- The state in which the events of a replay begin, once its map is loaded. -/
def loaded (published : σ) (map : List (Landmark α)) : State σ α :=
  { (start published : State σ α) with
    localizer := ((start published : State σ α).localizer.setLandmarks (map.map .ok)).state }

theorem loaded_fuser (published : σ) (map : List (Landmark α)) :
    (loaded published map).localizer.fuser = ⟨Tally.empty, published⟩ := by
  unfold loaded Localizer.setLandmarks
  split <;> rfl

/-! ## Skipping -/

theorem skipping_state (kind : String) (p : Progress σ α) : (skipping kind p).state = p.state := by
  unfold skipping
  split
  · rfl
  · split <;> rfl

theorem skipping_error_iff (kind : String) (p : Progress σ α) (f : Fault) :
    (skipping kind p).outcome = .error f ↔ p.outcome = .error f ∧ isSkipped f = false := by
  unfold skipping
  cases houtcome : p.outcome with
  | ok u => simp [houtcome]
  | error g =>
      dsimp only
      by_cases hskipped : isSkipped g = true
      · rw [if_pos hskipped]
        constructor
        · rintro ⟨⟩
        · rintro ⟨⟨⟩, hnot⟩
          rw [hskipped] at hnot
          cases hnot
      · rw [if_neg hskipped, houtcome]
        constructor
        · rintro ⟨⟩
          exact ⟨rfl, by simpa using hskipped⟩
        · exact fun hboth => hboth.1

/-- What is skipped returns if its fault, if any, is one that is skipped. -/
theorem skipping_ok_iff (kind : String) (p : Progress σ α) :
    (skipping kind p).outcome = .ok () ↔ ∀ f, p.outcome = .error f → isSkipped f = true := by
  constructor
  · intro hreturns f hfails
    by_contra hnot
    have herror := (skipping_error_iff kind p f).mpr ⟨hfails, by simpa using hnot⟩
    rw [hreturns] at herror
    cases herror
  · intro hall
    cases houtcome : (skipping kind p).outcome with
    | ok u => rfl
    | error f =>
        obtain ⟨hfails, hnot⟩ := (skipping_error_iff kind p f).mp houtcome
        rw [hall f hfails] at hnot
        cases hnot

/-! ## One event -/

variable [Scalar α] [Numerics α] {setup : Setup σ α}

theorem step_of_kind (s : State σ α) {es : List (Value × Value)} {kind : String}
    (hkind : kindOf es = .ok kind) :
    step setup s (.map es) =
      skipping kind (dispatch setup (s.numbered (s.events + 1)) kind es) := by
  simp only [step, hkind]
  rfl

/-- An event that does not end the replay is a mapping with a type. -/
theorem kind_of_step {s : State σ α} {event : Value}
    (hreturns : (step setup s event).outcome = .ok ()) :
    ∃ es kind, event = .map es ∧ kindOf es = .ok kind := by
  cases event with
  | map es =>
      cases hkind : kindOf es with
      | error f =>
          simp only [step, hkind] at hreturns
          cases hreturns
      | ok kind => exact ⟨es, kind, rfl, hkind⟩
  | _ => cases hreturns

theorem dispatch_events (setup : Setup σ α) (s : State σ α) (kind : String)
    (es : List (Value × Value)) : (dispatch setup s kind es).state.events = s.events := by
  unfold dispatch reference cycle landmarks
  split
  · split <;> rfl
  · split
    · split
      · rfl
      · dsimp only
        split <;> rfl
    · split
      · split <;> rfl
      · rfl

theorem step_events (setup : Setup σ α) (s : State σ α) (event : Value) :
    (step setup s event).state.events = s.events + 1 := by
  unfold step
  split
  next es =>
    dsimp only
    split
    · rfl
    · rw [skipping_state, dispatch_events]
  next => rfl

/-! ## Several events -/

theorem steps_cons_ok {s : State σ α} {e : Value} {events : List Value}
    (hreturns : (steps setup s (e :: events)).outcome = .ok ()) :
    (step setup s e).outcome = .ok () ∧
      (steps setup (step setup s e).state events).outcome = .ok () ∧
      (steps setup s (e :: events)).state = (steps setup (step setup s e).state events).state := by
  cases hstep : (step setup s e).outcome with
  | error f =>
      simp only [steps, hstep] at hreturns
      cases hreturns
  | ok u =>
      simp only [steps, hstep] at hreturns ⊢
      exact ⟨trivial, hreturns, trivial⟩

theorem steps_of_step {s : State σ α} {e : Value} (hstep : (step setup s e).outcome = .ok ())
    (events : List Value) :
    (steps setup s (e :: events)).outcome =
        (steps setup (step setup s e).state events).outcome ∧
      (steps setup s (e :: events)).state =
        (steps setup (step setup s e).state events).state := by
  simp only [steps, hstep]
  exact ⟨trivial, trivial⟩

theorem steps_append_ok {s : State σ α} {before after : List Value}
    (hreturns : (steps setup s (before ++ after)).outcome = .ok ()) :
    (steps setup s before).outcome = .ok () ∧
      (steps setup (steps setup s before).state after).outcome = .ok () ∧
      (steps setup s (before ++ after)).state =
        (steps setup (steps setup s before).state after).state := by
  induction before generalizing s with
  | nil => exact ⟨rfl, hreturns, rfl⟩
  | cons e before ih =>
      obtain ⟨hstep, hrest, hstate⟩ := steps_cons_ok hreturns
      obtain ⟨hbefore, hafter, hsplit⟩ := ih hrest
      obtain ⟨houtcome', hstate'⟩ := steps_of_step hstep before
      rw [houtcome', hstate']
      exact ⟨hbefore, hafter, hstate.trans hsplit⟩

theorem steps_append_of_ok {s : State σ α} {before : List Value}
    (hbefore : (steps setup s before).outcome = .ok ()) (after : List Value) :
    (steps setup s (before ++ after)).outcome =
        (steps setup (steps setup s before).state after).outcome ∧
      (steps setup s (before ++ after)).state =
        (steps setup (steps setup s before).state after).state := by
  induction before generalizing s with
  | nil => exact ⟨rfl, rfl⟩
  | cons e before ih =>
      obtain ⟨hstep, hrest, hstate⟩ := steps_cons_ok hbefore
      obtain ⟨houtcome', hstate'⟩ := steps_of_step hstep (before ++ after)
      rw [List.cons_append, houtcome', hstate', hstate]
      exact ih hrest

theorem steps_events (s : State σ α) (events : List Value)
    (hreturns : (steps setup s events).outcome = .ok ()) :
    (steps setup s events).state.events = s.events + events.length := by
  induction events generalizing s with
  | nil => rfl
  | cons e events ih =>
      obtain ⟨_, hrest, hstate⟩ := steps_cons_ok hreturns
      rw [hstate, ih _ hrest, step_events, List.length_cons]
      omega

/-! ## Replays -/

theorem run_of_collect (setup : Setup σ α) (published : σ) {map : List (Landmark α)}
    {r : Registry α} (hcollect : Registry.collect (map.map .ok) = .ok r) (events : List Value) :
    (run setup published map events none).outcome =
        (steps setup (loaded published map) events).outcome ∧
      (run setup published map events none).state =
        (steps setup (loaded published map) events).state := by
  have hloaded :
      ((start published : State σ α).localizer.setLandmarks (map.map .ok)).result = .ok r := by
    simp only [Localizer.setLandmarks, hcollect]
  simp only [run, hloaded, loaded]
  cases houtcome : (steps setup _ events).outcome <;> exact ⟨rfl, trivial⟩

/-- A replay that returns has loaded its map and has come to the end of its events. -/
theorem run_ok {published : σ} {map : List (Landmark α)} {events : List Value}
    {ending : Option Fault}
    (hreturns : (run setup published map events ending).outcome = .ok ()) :
    ending = none ∧ ∃ r, Registry.collect (map.map .ok) = .ok r := by
  cases hcollect : Registry.collect (map.map Except.ok) with
  | error f =>
      simp only [run, Localizer.setLandmarks, hcollect] at hreturns
      cases hreturns
  | ok r =>
      refine ⟨?_, r, rfl⟩
      cases ending with
      | none => rfl
      | some f =>
          simp only [run, Localizer.setLandmarks, hcollect] at hreturns
          cases houtcome : (steps setup _ events).outcome with
          | error g =>
              rw [houtcome] at hreturns
              cases hreturns
          | ok u =>
              rw [houtcome] at hreturns
              cases hreturns

/-- A fault in which reading the events ends comes after what the events have done. -/
theorem run_of_ending {published : σ} {map : List (Landmark α)} {events : List Value}
    (hreturns : (run setup published map events none).outcome = .ok ()) (f : Fault) :
    (run setup published map events (some f)).outcome = .error f ∧
      (run setup published map events (some f)).state =
        (run setup published map events none).state := by
  obtain ⟨_, r, hcollect⟩ := run_ok hreturns
  obtain ⟨houtcome, _⟩ := run_of_collect setup published hcollect events
  have hsteps := houtcome.symm.trans hreturns
  simp only [run, Localizer.setLandmarks, hcollect, loaded] at hsteps ⊢
  rw [hsteps]
  exact ⟨rfl, trivial⟩

end Replay
end Fiducial
