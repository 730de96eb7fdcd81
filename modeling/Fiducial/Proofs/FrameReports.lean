import Fiducial.Proofs.WorkerRecord
import Fiducial.Worker.Frames

/-!
# What the receiver of reports is called with

The state on which a handler works passes from one item to the next: an item is handled in the state
that the item before it left, apart from what the caller changed in between.  For a worker that
handles frames this chains the cycles of its localizer.

A receiver that keeps a note of every report it is called with does otherwise what it does without
the notes.  At the end of a run its notes are the reports of the frames that were handled.
-/

namespace Fiducial

variable {σ ι ρ : Type}

namespace Worker

/-- The changes that the caller makes in a move. -/
def Move.changes : Move σ ι → List (σ → σ)
  | .act _ => []
  | .change f => [f]

/-- A state passes through items, each handled in the state that there is, and through changes by
the caller. -/
inductive Passage (after : σ × ι → σ) (owner : σ) : List (σ × ι) → List (σ → σ) → σ → Prop where
  | start : Passage after owner [] [] owner
  | change {items : List (σ × ι)} {changes : List (σ → σ)} {s : σ} (f : σ → σ)
      (hs : Passage after owner items changes s) :
      Passage after owner items (changes ++ [f]) (f s)
  | item {items : List (σ × ι)} {changes : List (σ → σ)} {s : σ} (x : ι)
      (hs : Passage after owner items changes s) :
      Passage after owner (items ++ [(s, x)]) changes (after (s, x))

namespace Moment

section Owner

variable (s : Moment σ ι)

@[simp] theorem attempt_owner (x : ι) : (s.attempt x).worker.owner = s.worker.owner := by
  unfold attempt
  split <;> rfl

@[simp] theorem proceed_owner : s.proceed.worker.owner = s.worker.owner := by
  obtain ⟨⟨waiting, _, _, _, _, _, _, _, _, _⟩, caller, _⟩ := s
  cases caller <;> cases waiting <;> rfl

@[simp] theorem grab_owner : s.worker.grab.owner = s.worker.owner := by
  unfold Worker.grab
  split <;> rfl

@[simp] theorem take_owner : s.worker.take.owner = s.worker.owner := by
  unfold Worker.take
  split <;> rfl

theorem submit_owner (hfree : s.caller = .free) (x : ι) :
    (s.submit x).worker.owner = s.worker.owner := by
  simp [submit_eq_pieces hfree]

theorem ifFree_owner {next : Moment σ ι}
    (hnext : s.caller = .free → next.worker.owner = s.worker.owner) :
    (s.ifFree next).worker.owner = s.worker.owner := by
  unfold ifFree
  split
  next hfree => exact hnext hfree
  next => rfl

end Owner

/-- What a move does to the state of a handler and to the record of it. -/
inductive Handover (h : Handler σ ι ρ) (m : Move σ ι) :
    σ × Record σ ι ρ → σ × Record σ ι ρ → Prop where
  | keep (hchanges : m.changes = []) (o : σ × Record σ ι ρ) : Handover h m o o
  | change (f : σ → σ) (hchanges : m.changes = [f]) (owner : σ) (r : Record σ ι ρ) :
      Handover h m (owner, r) (f owner, r)
  | item (hchanges : m.changes = []) (owner : σ) (x : ι) (r : Record σ ι ρ) :
      Handover h m (owner, r) (h.after (owner, x), r.add h (owner, x))

theorem Handover.of_finish (h : Handler σ ι ρ) (s : Moment (σ × Record σ ι ρ) ι) {m : Move σ ι}
    (hchanges : m.changes = []) :
    Handover h m s.worker.owner (s.finish (recorded h)).worker.owner := by
  obtain hnothing | ⟨x, -, -, ⟨-, hcomplete⟩ | ⟨f, -, hfail⟩⟩ := s.finish_recorded h
  · rw [hnothing]
    exact .keep hchanges _
  · rw [hcomplete]
    exact .item hchanges s.worker.owner.1 x s.worker.owner.2
  · rw [hfail]
    exact .item hchanges s.worker.owner.1 x s.worker.owner.2

/-- Only a change by the caller and the end of an item alter the state of a handler. -/
theorem play_handover (h : Handler σ ι ρ) (s : Moment (σ × Record σ ι ρ) ι) (m : Move σ ι) :
    Handover h m s.worker.owner (s.play (recorded h) (m.recorded ρ)).worker.owner := by
  have hkept : ∀ {s' : Moment (σ × Record σ ι ρ) ι} {a : Action ι},
      s'.worker.owner = s.worker.owner →
        Handover h (.act a) s.worker.owner s'.worker.owner := by
    intro s' a howner
    rw [howner]
    exact .keep rfl _
  cases m with
  | change f => exact .change f rfl s.worker.owner.1 s.worker.owner.2
  | act a =>
      cases a with
      | submit x => exact hkept (s.ifFree_owner fun hfree => s.submit_owner hfree x)
      | start =>
          refine hkept (s.ifFree_owner fun _ => ?_)
          unfold Worker.start
          split <;> rfl
      | close =>
          change Handover h _ s.worker.owner (s.ifFree _).worker.owner
          unfold ifFree
          split
          next hfree =>
            -- Closing waits for the worker, so the item under way is still finished.
            rw [close_eq_finish _ hfree]
            exact .of_finish h { s with worker := { s.worker with stopped := true } } rfl
          next => exact .keep rfl _
      | waitIdle => exact .keep rfl _
      | attempt x => exact hkept (s.ifFree_owner fun _ => s.attempt_owner x)
      | proceed => exact hkept s.proceed_owner
      | closeEarly => exact hkept (s.ifFree_owner fun _ => rfl)
      | take => exact hkept s.take_owner
      | takeLate => exact hkept s.grab_owner
      | finish => exact .of_finish h s rfl

theorem Handover.passage {h : Handler σ ι ρ} {m : Move σ ι} {o o' : σ × Record σ ι ρ}
    (hm : Handover h m o o') {owner : σ} {changes : List (σ → σ)}
    (ho : Passage h.after owner o.2.handled changes o.1) :
    Passage h.after owner o'.2.handled (changes ++ m.changes) o'.1 := by
  cases hm with
  | keep hchanges =>
      rw [hchanges, List.append_nil]
      exact ho
  | change f hchanges =>
      rw [hchanges]
      exact ho.change f
  | item hchanges _ x =>
      rw [hchanges, List.append_nil]
      exact ho.item x

/-- In a run, the state of the handler passes through the items that it handled and through the
changes that the caller made. -/
theorem recordedRun_passage (h : Handler σ ι ρ) (owner : σ) (moves : List (Move σ ι)) :
    let last := (recordedRun h owner moves).worker.owner
    Passage h.after owner last.2.handled (moves.flatMap Move.changes) last.1 := by
  induction moves using List.reverseRecOn with
  | nil => exact .start
  | append_singleton moves m ih =>
      have hplay := (play_handover h (recordedRun h owner moves) m).passage ih
      have hlast : recordedRun h owner (moves ++ [m]) =
          (recordedRun h owner moves).play (recorded h) (m.recorded ρ) := by
        simp [recordedRun, playAll]
      rw [hlast, List.flatMap_append, List.flatMap_singleton]
      exact hplay

end Moment
end Worker

/-! ## Notes of the reports -/

variable {α τ : Type}

namespace FrameDesk

/-- A desk with notes beside what the receiver has. -/
def withNotes {ν : Type} (desk : FrameDesk σ α τ) (notes : ν) : FrameDesk σ α (τ × ν) :=
  ⟨desk.localizer, desk.log, desk.received, notes⟩

def withoutNotes {ν : Type} (desk : FrameDesk σ α (τ × ν)) : FrameDesk σ α τ :=
  ⟨desk.localizer, desk.log, desk.received.1⟩

end FrameDesk

/-- The receiver that notes every report it is called with. -/
def ReportReceiver.noting (receive : ReportReceiver σ α τ) :
    ReportReceiver σ α (τ × List (Option (Report α))) := fun desk report =>
  let (desk', fault) := receive desk.withoutNotes report
  (desk'.withNotes (desk.received.2 ++ [report]), fault)

/-- A change by the caller leaves the notes. -/
def Worker.Move.noting :
    Worker.Move (FrameDesk σ α τ) MarkerFrame →
      Worker.Move (FrameDesk σ α (τ × List (Option (Report α)))) MarkerFrame
  | .act a => .act a
  | .change f => .change fun desk => (f desk.withoutNotes).withNotes desk.received.2

section Frames

variable [Scalar α] [Numerics α]

namespace Setup

/-- What a cycle makes of a frame, if it does not fail. -/
def reportOf (setup : Setup σ α) (c : FrameDesk σ α τ × MarkerFrame) : Option (Option (Report α)) :=
  (Localizer.processFrame setup c.1.localizer c.2).result.toOption

/-- The desk after a frame: the cycle is made, and its report is received. -/
def deskAfter (setup : Setup σ α) (receiver : Option (ReportReceiver σ α τ))
    (c : FrameDesk σ α τ × MarkerFrame) : FrameDesk σ α τ :=
  let reply := Localizer.processFrame setup c.1.localizer c.2
  let made : FrameDesk σ α τ := ⟨reply.state, c.1.log ++ reply.log, c.1.received⟩
  match receiver, reply.result with
  | some receive, .ok report => (receive made report).1
  | _, _ => made

theorem after_frameHandler (setup : Setup σ α) (receiver : Option (ReportReceiver σ α τ)) :
    (setup.frameHandler receiver).after = setup.deskAfter receiver := by
  funext ⟨desk, frame⟩
  cases hreply : (Localizer.processFrame setup desk.localizer frame).result with
  | error f => cases receiver <;> simp [Handler.after, frameHandler, deskAfter, hreply]
  | ok report => cases receiver <;> simp [Handler.after, frameHandler, deskAfter, hreply]

theorem result_frameHandler (setup : Setup σ α) (receiver : Option (ReportReceiver σ α τ)) :
    (setup.frameHandler receiver).result = setup.reportOf := rfl

end Setup

namespace Worker.Moment

/-- The notes of a receiver are what a record of the run has as delivered. -/
theorem recordedRun_noting (setup : Setup σ α) (receive : ReportReceiver σ α τ)
    (desk : FrameDesk σ α τ) (moves : List (Move (FrameDesk σ α τ) MarkerFrame)) :
    (recordedRun (setup.frameHandler (some receive)) desk moves).onOwner
        (fun o => o.1.withNotes o.2.delivered) =
      (atRest (desk.withNotes [])).playAll (setup.frameHandler (some receive.noting))
        (moves.map Move.noting) := by
  refine playAll_onOwner _ (fun s m => ?_) _ moves
  cases m with
  | act a => exact (perform_onOwner _ (fun _ _ => rfl) (fun _ _ => rfl) s a).symm
  | change f => rfl

/-- Notes change nothing else in a run. -/
theorem playAll_noting_withoutNotes (setup : Setup σ α) (receive : ReportReceiver σ α τ)
    (desk : FrameDesk σ α τ) (moves : List (Move (FrameDesk σ α τ) MarkerFrame)) :
    ((atRest (desk.withNotes [])).playAll (setup.frameHandler (some receive.noting))
        (moves.map Move.noting)).onOwner FrameDesk.withoutNotes =
      (atRest desk).playAll (setup.frameHandler (some receive)) moves := by
  rw [← recordedRun_noting, ← recordedRun_onOwner]
  rfl

end Worker.Moment

end Frames
end Fiducial
