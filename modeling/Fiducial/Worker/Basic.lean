import Fiducial.Fault

/-!
# A worker that keeps the latest item

Items are handed to a worker that handles them one at a time.  One item may wait; a newer one takes
its place and the older is dropped.  A handled item gives a result, which is delivered.  The first
fault of handling or delivering ends the worker, and every later call reports it.

Calls and the worker's own steps are atomic here.
-/

namespace Fiducial

/-- What a worker does with an item, on behalf of a state that belongs to the caller. -/
structure Handler (σ ι ρ : Type) where
  handle : σ → ι → σ × Except Fault ρ
  deliver : σ → ρ → σ × Option Fault

structure Worker (σ ι : Type) where
  waiting : Option ι
  /-- The item being handled, or the one that failed. -/
  current : Option ι
  /-- Whether nothing waits and nothing is being handled. -/
  idle : Bool
  pending : Int
  dropped : Nat
  processed : Nat
  failure : Option Fault
  started : Bool
  stopped : Bool
  owner : σ

namespace Worker

variable {σ ι ρ : Type}

def new (owner : σ) : Worker σ ι :=
  { waiting := none, current := none, idle := true, pending := 0, dropped := 0, processed := 0,
    failure := none, started := false, stopped := false, owner }

/-- What a call gives after a failure. -/
def report (w : Worker σ ι) : Except Fault Unit :=
  match w.failure with
  | some f => .error (.workerFailed f)
  | none => .ok ()

/-- Puts an item in the place of the waiting one, if it is free. -/
def offer (w : Worker σ ι) (x : ι) : Option (Worker σ ι) :=
  if w.waiting.isNone then some { w with waiting := some x, pending := w.pending + 1 } else none

/-- Drops the item that waits. -/
def evict (w : Worker σ ι) : Worker σ ι :=
  if w.waiting.isSome then
    { w with waiting := none, dropped := w.dropped + 1, pending := w.pending - 1 }
  else w

/-- Drops an item for which there is no place. -/
def turnAway (w : Worker σ ι) : Worker σ ι :=
  { w with dropped := w.dropped + 1, idle := w.idle || w.pending ≤ 0 }

/-- Lets an item wait, in the place of one that waits already. -/
def place (w : Worker σ ι) (x : ι) : Worker σ ι :=
  let w := { w with idle := false }
  match w.offer x with
  | some w' => w'
  | none =>
    match w.evict.offer x with
    | some w' => w'
    | none => w.evict.turnAway

def submit (w : Worker σ ι) (x : ι) : Except Fault Unit × Worker σ ι :=
  match w.report with
  | .error f => (.error f, w)
  | .ok () => (.ok (), w.place x)

/-- A worker is started once. -/
def start (w : Worker σ ι) : Except Fault Unit × Worker σ ι :=
  if w.started then (.error .alreadyStarted, w) else (.ok (), { w with started := true })

def isRunning (w : Worker σ ι) : Bool := w.started && !w.stopped && w.failure.isNone

/-- The worker's step from one item to the next. -/
def take (w : Worker σ ι) : Worker σ ι :=
  if w.isRunning && w.current.isNone then { w with current := w.waiting, waiting := none } else w

def fail (w : Worker σ ι) (owner : σ) (f : Fault) : Worker σ ι :=
  { w with owner, failure := w.failure <|> some f, idle := true }

/-- The counts after an item that was handled and delivered. -/
def complete (w : Worker σ ι) (owner : σ) : Worker σ ι :=
  let pending := w.pending - 1
  { w with
    owner, current := none, processed := w.processed + 1,
    pending := if pending ≤ 0 then 0 else pending, idle := w.idle || pending ≤ 0 }

/-- The worker's step to the end of an item. -/
def finish (h : Handler σ ι ρ) (w : Worker σ ι) : Worker σ ι :=
  match w.current, w.failure with
  | some x, none =>
    match h.handle w.owner x with
    | (owner, .error f) => w.fail owner f
    | (owner, .ok r) =>
      match h.deliver owner r with
      | (owner, some f) => w.fail owner f
      | (owner, none) => w.complete owner
  | _, _ => w

/-- Whether there is nothing to wait for, and the failure if there is one. -/
def waitIdle (w : Worker σ ι) : Except Fault Bool := w.report.map fun _ => w.idle

/-- Stops the worker after the item being handled. -/
def close (h : Handler σ ι ρ) (w : Worker σ ι) : Except Fault Unit × Worker σ ι :=
  let w := finish h { w with stopped := true }
  (w.report, w)

/-- All steps that the worker can make while no call is made. -/
def settle (h : Handler σ ι ρ) (w : Worker σ ι) : Worker σ ι :=
  finish h (take (finish h w))

end Worker
end Fiducial
