import Fiducial.Proofs.WorkerInterleaving

/-!
# Every item of a worker is accounted for

An item whose submission returned was handled or dropped, or it waits, or it is in the hand of the
worker.  The pending count is the number of items that wait or are in hand, so it tells whether the
worker is idle.  Both hold at each moment of a run, whatever the caller and the worker do.
-/

namespace Fiducial
namespace Worker

variable {σ ι ρ : Type}

def queued (w : Worker σ ι) : Nat := w.waiting.toList.length

/-- Counts the item being handled, or the one that failed. -/
def inHand (w : Worker σ ι) : Nat := w.current.toList.length

/-! ## Counts -/

structure Balanced (w : Worker σ ι) (given : Nat) : Prop where
  items : given = w.processed + w.dropped + w.queued + w.inHand
  pending : w.pending = w.queued + w.inHand
  failed : w.failure.isSome → w.current.isSome

theorem balanced_new (owner : σ) : (Worker.new owner : Worker σ ι).Balanced 0 :=
  ⟨rfl, rfl, fun hfailed => hfailed⟩

namespace Balanced

variable {w w' : Worker σ ι} {given : Nat}

theorem pending_eq_zero_iff (hw : w.Balanced given) :
    w.pending = 0 ↔ w.waiting = none ∧ w.current = none := by
  rw [hw.pending]
  unfold queued inHand
  cases w.waiting <;> cases w.current <;> simp

theorem offer (hw : w.Balanced given) {x : ι} (hoffer : w.offer x = some w') :
    w'.Balanced (given + 1) := by
  obtain ⟨hfree, rfl⟩ := offer_eq_some_iff.mp hoffer
  have hqueued : w.queued = 0 := by simp [queued, hfree]
  have hitems := hw.items
  have hpending := hw.pending
  constructor
  · change given + 1 = w.processed + w.dropped + 1 + w.inHand
    omega
  · change w.pending + 1 = ((1 : Nat) : Int) + w.inHand
    omega
  · exact hw.failed

theorem evict (hw : w.Balanced given) : w.evict.Balanced given := by
  unfold Worker.evict
  cases hwaiting : w.waiting with
  | none => simpa using hw
  | some x =>
      have hqueued : w.queued = 1 := by simp [queued, hwaiting]
      have hitems := hw.items
      have hpending := hw.pending
      simp only [Option.isSome_some, if_true]
      constructor
      · change given = w.processed + (w.dropped + 1) + 0 + w.inHand
        omega
      · change w.pending - 1 = ((0 : Nat) : Int) + w.inHand
        omega
      · exact hw.failed

theorem grab (hw : w.Balanced given) : w.grab.Balanced given := by
  unfold Worker.grab
  split
  next hready =>
    simp only [Bool.and_eq_true, Option.isNone_iff_eq_none] at hready
    obtain ⟨⟨-, hfailure⟩, hcurrent⟩ := hready
    have hhand : w.inHand = 0 := by simp [inHand, hcurrent]
    have hitems := hw.items
    have hpending := hw.pending
    constructor
    · change given = w.processed + w.dropped + 0 + w.queued
      omega
    · change w.pending = ((0 : Nat) : Int) + w.queued
      omega
    · simp [hfailure]
  next => exact hw

theorem fail (hw : w.Balanced given) (hcurrent : w.current.isSome) (owner : σ) (f : Fault) :
    (w.fail owner f).Balanced given :=
  ⟨hw.items, hw.pending, fun _ => hcurrent⟩

/-- The guard against a negative count is never needed. -/
theorem complete_pending (hw : w.Balanced given) (hcurrent : w.current.isSome) (owner : σ) :
    (w.complete owner).pending = w.pending - 1 := by
  obtain ⟨x, hx⟩ := Option.isSome_iff_exists.mp hcurrent
  have hhand : w.inHand = 1 := by simp [inHand, hx]
  have hpending := hw.pending
  simp only [complete]
  split <;> omega

theorem complete (hw : w.Balanced given) (hcurrent : w.current.isSome) (hfailure : w.failure = none)
    (owner : σ) : (w.complete owner).Balanced given := by
  obtain ⟨x, hx⟩ := Option.isSome_iff_exists.mp hcurrent
  have hhand : w.inHand = 1 := by simp [inHand, hx]
  have hitems := hw.items
  have hpending := hw.pending
  constructor
  · change given = w.processed + 1 + w.dropped + w.queued + 0
    omega
  · rw [hw.complete_pending hcurrent]
    change w.pending - 1 = w.queued + ((0 : Nat) : Int)
    omega
  · simp [Worker.complete, hfailure]

end Balanced

/-! ## Moments -/

namespace Moment

/-- What every action preserves.  The idle flag stays clear while a submission has the lock. -/
structure Conserved (s : Moment σ ι) : Prop where
  balanced : s.worker.Balanced s.returned.length
  idle : s.worker.failure = none →
    (s.worker.idle = true ↔ s.worker.pending = 0 ∧ s.caller.locked = false)
  room : ∀ x, s.caller = .again x → s.worker.waiting = none

theorem conserved_atRest (owner : σ) : (atRest owner : Moment σ ι).Conserved :=
  ⟨balanced_new owner, fun _ => by simp [atRest, Worker.new], by simp [atRest]⟩

namespace Conserved

variable {s : Moment σ ι}

theorem idle_clear (hs : s.Conserved) (hlocked : s.caller.locked = true)
    (hfailure : s.worker.failure = none) : s.worker.idle = false := by
  simpa [hlocked] using hs.idle hfailure

/-- An offer that is taken up ends the submission. -/
theorem placed (hs : s.Conserved) (hlocked : s.caller.locked = true) {x : ι} {w : Worker σ ι}
    (hoffer : s.worker.offer x = some w) : Conserved ⟨w, .free, s.returned ++ [x]⟩ := by
  have hbalanced : w.Balanced (s.returned ++ [x]).length := by
    simpa using hs.balanced.offer hoffer
  obtain ⟨-, rfl⟩ := offer_eq_some_iff.mp hoffer
  refine ⟨hbalanced, fun hfailure => ?_, by simp⟩
  have hclear := hs.idle_clear hlocked hfailure
  have hsome : s.worker.pending + 1 ≠ 0 := by
    have hpending := hs.balanced.pending
    omega
  simp [hclear, hsome]

theorem attempt (hs : s.Conserved) (hfree : s.caller = .free) (x : ι) :
    (s.attempt x).Conserved := by
  unfold Moment.attempt
  split
  · exact ⟨hs.balanced, by simpa [hfree] using hs.idle, by simp⟩
  · exact hs

theorem proceed (hs : s.Conserved) : s.proceed.Conserved := by
  unfold Moment.proceed
  split
  next => exact hs
  next x hcaller =>
    have hbalanced := hs.balanced
    exact ⟨⟨hbalanced.items, hbalanced.pending, hbalanced.failed⟩, by simp, by simp⟩
  next x hcaller =>
    have hlocked : s.caller.locked = true := by simp [hcaller]
    split
    next w hoffer => exact hs.placed hlocked hoffer
    next => exact ⟨hs.balanced, by simpa using hs.idle_clear hlocked, by simp⟩
  next x hcaller =>
    have hlocked : s.caller.locked = true := by simp [hcaller]
    have hclear := hs.idle_clear hlocked
    refine ⟨hs.balanced.evict, ?_, by simp⟩
    unfold evict
    split <;> simpa using hclear
  next x hcaller =>
    have hlocked : s.caller.locked = true := by simp [hcaller]
    split
    next w hoffer => exact hs.placed hlocked hoffer
    -- The queue has had room since the eviction, as the worker only takes from it.
    next hrefused => simp [offer, hs.room x hcaller] at hrefused

theorem submit (hs : s.Conserved) (hfree : s.caller = .free) (x : ι) : (s.submit x).Conserved := by
  rw [submit_eq_pieces hfree]
  exact (hs.attempt hfree x).proceed.proceed.proceed.proceed

theorem grab (hs : s.Conserved) : Conserved { s with worker := s.worker.grab } := by
  refine ⟨hs.balanced.grab, ?_, ?_⟩
  · have hidle := hs.idle
    unfold Worker.grab
    split <;> exact hidle
  · intro x hcaller
    have hroom := hs.room x hcaller
    unfold Worker.grab
    split
    · rfl
    · exact hroom

theorem take (hs : s.Conserved) : Conserved { s with worker := s.worker.take } := by
  rw [take_eq_grab]
  split
  · exact hs
  · exact hs.grab

/-- The worker is not idle while an item is in hand, so what remains decides whether it is now. -/
theorem complete (hs : s.Conserved) (hlocked : s.caller.locked = false)
    (hcurrent : s.worker.current.isSome) (hfailure : s.worker.failure = none) (owner : σ) :
    Conserved { s with worker := s.worker.complete owner } := by
  have hbalanced := hs.balanced.complete hcurrent hfailure owner
  have hpending := hs.balanced.complete_pending hcurrent owner
  have hbusy : s.worker.idle = false := by
    have hnonzero : ¬ s.worker.pending = 0 := by
      rw [hs.balanced.pending_eq_zero_iff]
      simp [← Option.isSome_iff_ne_none, hcurrent]
    simpa [hnonzero] using hs.idle hfailure
  refine ⟨hbalanced, fun _ => ?_, ?_⟩
  · -- The flag looks at the count before it is kept from going below zero.
    have hnonneg := hbalanced.pending
    change (s.worker.idle || decide (s.worker.pending - 1 ≤ 0)) = true ↔ _
    simp only [hbusy, hlocked, hpending, Bool.false_or, decide_eq_true_eq, and_true]
    omega
  · intro x hcaller
    have hcaller : s.caller = .again x := hcaller
    simp [hcaller] at hlocked

theorem fail (hs : s.Conserved) (hcurrent : s.worker.current.isSome)
    (hfailure : s.worker.failure = none) (owner : σ) (f : Fault) :
    Conserved { s with worker := s.worker.fail owner f } :=
  ⟨hs.balanced.fail hcurrent owner f, fun h => by simp [Worker.fail, hfailure] at h, hs.room⟩

theorem finish (h : Handler σ ι ρ) (hs : s.Conserved) : (s.finish h).Conserved := by
  obtain hnothing | ⟨hcurrent, hfailure, ⟨hlocked, owner, hcomplete⟩ | ⟨owner, f, hfail⟩⟩ :=
    s.finish_cases h
  · rwa [hnothing]
  · rw [hcomplete]
    exact hs.complete hlocked hcurrent hfailure owner
  · rw [hfail]
    exact hs.fail hcurrent hfailure owner f

theorem started (hs : s.Conserved) : Conserved { s with worker := s.worker.start.2 } := by
  unfold start
  split
  · exact hs
  · exact ⟨⟨hs.balanced.items, hs.balanced.pending, hs.balanced.failed⟩, hs.idle, hs.room⟩

theorem stopped (hs : s.Conserved) :
    Conserved { s with worker := { s.worker with stopped := true } } :=
  ⟨⟨hs.balanced.items, hs.balanced.pending, hs.balanced.failed⟩, hs.idle, hs.room⟩

theorem ifFree (hs : s.Conserved) {next : Moment σ ι}
    (hnext : s.caller = .free → next.Conserved) : (s.ifFree next).Conserved := by
  unfold Moment.ifFree
  split
  next hfree => exact hnext hfree
  next => exact hs

theorem perform (h : Handler σ ι ρ) (hs : s.Conserved) (a : Action ι) :
    (s.perform h a).Conserved := by
  cases a with
  | submit x => exact hs.ifFree fun hfree => hs.submit hfree x
  | start => exact hs.ifFree fun _ => hs.started
  | close =>
      refine hs.ifFree fun hfree => ?_
      rw [close_eq_finish h hfree]
      exact hs.stopped.finish h
  | waitIdle => exact hs
  | attempt x => exact hs.ifFree fun hfree => hs.attempt hfree x
  | proceed => exact hs.proceed
  | closeEarly => exact hs.ifFree fun _ => hs.stopped
  | take => exact hs.take
  | takeLate => exact hs.grab
  | finish => exact hs.finish h

theorem run (h : Handler σ ι ρ) (actions : List (Action ι)) (hs : s.Conserved) :
    (s.run h actions).Conserved := by
  induction actions generalizing s with
  | nil => exact hs
  | cons a rest ih => exact ih (hs.perform h a)

end Conserved

/-! ## Accounts -/

/-- What is known of the items at a moment. -/
structure Accounted (s : Moment σ ι) : Prop where
  items : s.returned.length =
    s.worker.processed + s.worker.dropped + s.worker.queued + s.worker.inHand
  failed_inHand : s.worker.failure.isSome → s.worker.inHand = 1
  pending : s.worker.pending = s.worker.queued + s.worker.inHand
  pending_nonneg : 0 ≤ s.worker.pending
  queued_le : s.worker.queued ≤ 1
  idle : s.worker.failure = none → s.caller.locked = false →
    (s.worker.idle = true ↔ s.worker.pending = 0)
  waitIdle : s.worker.failure = none → s.caller.locked = false →
    (s.worker.waitIdle = .ok true ↔ s.worker.waiting = none ∧ s.worker.current = none)
  idle_locked : s.worker.failure = none → s.caller.locked = true → s.worker.waitIdle = .ok false
  /-- The last access to the queue finds it empty, also if the worker took no item meanwhile. -/
  room : ∀ x, s.caller = .again x → (s.worker.offer x).isSome
  room_evict : ∀ x, (s.worker.evict.offer x).isSome

theorem Conserved.accounted {s : Moment σ ι} (hs : s.Conserved) : s.Accounted := by
  have hpending := hs.balanced.pending
  have hwaitIdle : s.worker.failure = none → s.worker.waitIdle = .ok s.worker.idle := by
    intro hfailure
    simp [Worker.waitIdle, report, hfailure, Except.map]
  constructor
  case items => exact hs.balanced.items
  case failed_inHand =>
    intro hfailure
    obtain ⟨x, hx⟩ := Option.isSome_iff_exists.mp (hs.balanced.failed hfailure)
    simp [inHand, hx]
  case pending => exact hpending
  case pending_nonneg => omega
  case queued_le =>
    unfold queued
    cases s.worker.waiting <;> simp
  case idle =>
    intro hfailure hlocked
    simpa [hlocked] using hs.idle hfailure
  case waitIdle =>
    intro hfailure hlocked
    rw [hwaitIdle hfailure, ← hs.balanced.pending_eq_zero_iff]
    simpa [hlocked] using hs.idle hfailure
  case idle_locked =>
    intro hfailure hlocked
    rw [hwaitIdle hfailure, hs.idle_clear hlocked hfailure]
  case room =>
    intro x hcaller
    simp [offer, hs.room x hcaller]
  case room_evict => simp [offer]

theorem run_accounted (h : Handler σ ι ρ) (owner : σ) (actions : List (Action ι)) :
    ((atRest owner).run h actions).Accounted :=
  ((conserved_atRest owner).run h actions).accounted

/-- The worker takes the first item between two accesses of the second submission, which then finds
nothing to drop. -/
example :
    let h : Handler Unit Nat Unit := ⟨fun s _ => (s, .ok ()), fun s _ => (s, none)⟩
    let s := (atRest ()).run h
      [.start, .submit 1, .attempt 2, .proceed, .proceed, .take, .proceed, .proceed]
    s.returned = [1, 2] ∧ s.worker.dropped = 0 ∧ s.worker.waiting = some 2 := by
  decide

end Moment
end Worker
end Fiducial
