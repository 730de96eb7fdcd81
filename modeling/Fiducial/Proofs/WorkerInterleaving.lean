import Fiducial.Worker.Basic
import Mathlib.Tactic

/-!
# Runs of a worker with its caller

The caller and the worker take turns in any order.  A call is one action, and so is each step of the
worker.  A submission can also be made in pieces, with steps of the worker between them: it looks
for a failure, takes the lock and clears the idle flag, and then goes to the queue up to three
times.  The lock does not keep the worker from taking the item that waits, nor from failing; it
keeps it from counting an item that was handled.  A stop can come between the worker's look at it
and its next item, and a call that closes can return before the item in hand is handled.
-/

namespace Fiducial
namespace Worker

variable {σ ι ρ : Type}

/-- Where the caller is, and the item it submits. -/
inductive Caller (ι : Type) where
  | free
  | checked (x : ι)
  | cleared (x : ι)
  | full (x : ι)
  | again (x : ι)

def Caller.locked : Caller ι → Bool
  | .free | .checked _ => false
  | .cleared _ | .full _ | .again _ => true

@[simp] theorem Caller.locked_free : (Caller.free : Caller ι).locked = false := rfl

@[simp] theorem Caller.locked_checked (x : ι) : (Caller.checked x).locked = false := rfl

@[simp] theorem Caller.locked_cleared (x : ι) : (Caller.cleared x).locked = true := rfl

@[simp] theorem Caller.locked_full (x : ι) : (Caller.full x).locked = true := rfl

@[simp] theorem Caller.locked_again (x : ι) : (Caller.again x).locked = true := rfl

/-- A moment of a run, with the items of the submissions that returned. -/
structure Moment (σ ι : Type) where
  worker : Worker σ ι
  caller : Caller ι
  returned : List ι

inductive Action (ι : Type) where
  | submit (x : ι)
  | start
  | close
  | waitIdle
  | attempt (x : ι)
  | proceed
  | closeEarly
  | take
  | takeLate
  | finish

/-- The worker takes the item that waits, and does not look whether it was stopped. -/
def grab (w : Worker σ ι) : Worker σ ι :=
  if w.started && w.failure.isNone && w.current.isNone then
    { w with current := w.waiting, waiting := none }
  else w

theorem take_eq_grab (w : Worker σ ι) : w.take = if w.stopped then w else w.grab := by
  unfold take grab isRunning
  cases w.stopped <;> simp

theorem offer_eq_some_iff {w w' : Worker σ ι} {x : ι} :
    w.offer x = some w' ↔
      w.waiting = none ∧ w' = { w with waiting := some x, pending := w.pending + 1 } := by
  unfold offer
  cases w.waiting <;> simp [eq_comm]

@[simp] theorem evict_waiting (w : Worker σ ι) : w.evict.waiting = none := by
  unfold evict
  cases hwaiting : w.waiting <;> simp [hwaiting]

/-- What a worker can do at the end of an item: nothing, count it as processed, or fail. -/
theorem finish_cases (h : Handler σ ι ρ) (w : Worker σ ι) :
    finish h w = w ∨
      (w.current.isSome ∧ w.failure = none ∧
        ((∃ owner, finish h w = w.complete owner) ∨ ∃ owner f, finish h w = w.fail owner f)) := by
  unfold finish
  split
  next x hcurrent hfailure =>
    refine .inr ⟨by simp [hcurrent], hfailure, ?_⟩
    split
    · exact .inr ⟨_, _, rfl⟩
    · split
      · exact .inr ⟨_, _, rfl⟩
      · exact .inl ⟨_, rfl⟩
  next => exact .inl rfl

namespace Moment

def atRest (owner : σ) : Moment σ ι := ⟨Worker.new owner, .free, []⟩

/-- A whole submission, as one action. -/
def submit (s : Moment σ ι) (x : ι) : Moment σ ι :=
  match s.worker.submit x with
  | (.ok (), w) => { s with worker := w, returned := s.returned ++ [x] }
  | (.error _, w) => { s with worker := w }

/-- A submission that finds no failure is under way. -/
def attempt (s : Moment σ ι) (x : ι) : Moment σ ι :=
  match s.worker.report with
  | .ok () => { s with caller := .checked x }
  | .error _ => s

/-- The next piece of a submission that is under way. -/
def proceed (s : Moment σ ι) : Moment σ ι :=
  match s.caller with
  | .free => s
  | .checked x => { s with worker := { s.worker with idle := false }, caller := .cleared x }
  | .cleared x =>
    match s.worker.offer x with
    | some w => ⟨w, .free, s.returned ++ [x]⟩
    | none => { s with caller := .full x }
  | .full x => { s with worker := s.worker.evict, caller := .again x }
  | .again x =>
    match s.worker.offer x with
    | some w => ⟨w, .free, s.returned ++ [x]⟩
    | none => ⟨s.worker.turnAway, .free, s.returned ++ [x]⟩

/-- The worker's step to the end of an item.  While the lock is held it can only fail. -/
def finish (h : Handler σ ι ρ) (s : Moment σ ι) : Moment σ ι :=
  let w := Worker.finish h s.worker
  if s.caller.locked && w.failure.isNone then s else { s with worker := w }

/-- A call is made only when the caller is free. -/
def ifFree (s : Moment σ ι) (next : Moment σ ι) : Moment σ ι :=
  match s.caller with
  | .free => next
  | _ => s

def perform (h : Handler σ ι ρ) (s : Moment σ ι) : Action ι → Moment σ ι
  | .submit x => s.ifFree (s.submit x)
  | .start => s.ifFree { s with worker := s.worker.start.2 }
  | .close => s.ifFree { s with worker := (s.worker.close h).2 }
  | .waitIdle => s
  | .attempt x => s.ifFree (s.attempt x)
  | .proceed => s.proceed
  | .closeEarly => s.ifFree { s with worker := { s.worker with stopped := true } }
  | .take => { s with worker := s.worker.take }
  | .takeLate => { s with worker := s.worker.grab }
  | .finish => s.finish h

def run (h : Handler σ ι ρ) (s : Moment σ ι) (actions : List (Action ι)) : Moment σ ι :=
  actions.foldl (perform h) s

/-- A submission as one action does what its pieces do with nothing between them. -/
theorem submit_eq_pieces {s : Moment σ ι} (hfree : s.caller = .free) (x : ι) :
    s.submit x = (s.attempt x).proceed.proceed.proceed.proceed := by
  obtain ⟨w, caller, returned⟩ := s
  subst hfree
  cases hreport : w.report with
  | error f => simp [submit, Worker.submit, attempt, hreport, proceed]
  | ok u =>
      simp only [submit, Worker.submit, attempt, hreport, proceed, place]
      cases hoffer : Worker.offer { w with idle := false } x with
      | some placed => simp
      | none =>
          simp only
          cases Worker.offer (Worker.evict { w with idle := false }) x <;> simp

/-- What the end of an item can be, with the lock in mind. -/
theorem finish_cases (h : Handler σ ι ρ) (s : Moment σ ι) :
    s.finish h = s ∨
      (s.worker.current.isSome ∧ s.worker.failure = none ∧
        ((s.caller.locked = false ∧
            ∃ owner, s.finish h = { s with worker := s.worker.complete owner }) ∨
          ∃ owner f, s.finish h = { s with worker := s.worker.fail owner f })) := by
  unfold finish
  obtain hnothing | ⟨hcurrent, hfailure, ⟨owner, hcomplete⟩ | ⟨owner, f, hfail⟩⟩ :=
    Worker.finish_cases h s.worker
  · simp [hnothing]
  · cases hlocked : s.caller.locked with
    | true => simp [hcomplete, complete, hfailure]
    | false => exact .inr ⟨hcurrent, hfailure, .inl ⟨rfl, owner, by simp [hcomplete]⟩⟩
  · exact .inr ⟨hcurrent, hfailure, .inr ⟨owner, f, by simp [hfail, fail]⟩⟩

/-- A call that closes stops the worker and waits for the end of the item in hand. -/
theorem close_eq_finish (h : Handler σ ι ρ) {s : Moment σ ι} (hfree : s.caller = .free) :
    { s with worker := (s.worker.close h).2 } =
      finish h { s with worker := { s.worker with stopped := true } } := by
  simp [finish, close, hfree]

end Moment
end Worker
end Fiducial
