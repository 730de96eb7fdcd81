import Fiducial.Proofs.WorkerRecord

/-!
# The failure of a worker is final

A fault of handling or of delivery ends the worker.  From then on every call reports that fault, and
no item is handled.  The queue and the counts change no more, except that a submission which had
looked for a failure before there was one still comes to its end.
-/

namespace Fiducial
namespace Worker

variable {σ ι ρ : Type}

/-- A move that is not a piece of a submission. -/
def Move.isWhole : Move σ ι → Bool
  | .act (.attempt _) | .act .proceed => false
  | _ => true

/-! ## Calls and steps after a failure -/

section Failed

variable {w : Worker σ ι} {f : Fault}

theorem report_failed (hf : w.failure = some f) : w.report = .error (.workerFailed f) := by
  simp [report, hf]

theorem submit_failed (hf : w.failure = some f) (x : ι) :
    w.submit x = (.error (.workerFailed f), w) := by
  simp [submit, report_failed hf]

theorem waitIdle_failed (hf : w.failure = some f) : w.waitIdle = .error (.workerFailed f) := by
  simp [waitIdle, report_failed hf, Except.map]

theorem finish_failed (h : Handler σ ι ρ) (hf : w.failure = some f) : finish h w = w := by
  unfold finish
  split <;> simp_all

theorem close_failed (h : Handler σ ι ρ) (hf : w.failure = some f) :
    w.close h = (.error (.workerFailed f), { w with stopped := true }) := by
  have hfinish : finish h { w with stopped := true } = { w with stopped := true } :=
    finish_failed h hf
  unfold close
  rw [hfinish]
  simp [report, hf]

theorem grab_failed (hf : w.failure = some f) : w.grab = w := by
  simp [grab, hf]

theorem take_failed (hf : w.failure = some f) : w.take = w := by
  simp [take_eq_grab, grab_failed hf]

end Failed

namespace Moment

/-- The later moment differs at most in the flags of start and stop and in what the handler works
on. -/
def Alike (s s' : Moment (σ × Record σ ι ρ) ι) : Prop :=
  ∃ started stopped owner, s' = { s with
    worker := { s.worker with started, stopped, owner := (owner, s.worker.owner.2) } }

namespace Alike

variable {s s' s'' : Moment (σ × Record σ ι ρ) ι}

theorem refl : Alike s s := ⟨_, _, _, rfl⟩

theorem of_eq {w : Worker (σ × Record σ ι ρ) ι} (hw : w = s.worker) :
    Alike s { s with worker := w } := by
  subst hw
  exact refl

theorem trans (hfirst : Alike s s') (hsecond : Alike s' s'') : Alike s s'' := by
  obtain ⟨_, _, _, rfl⟩ := hfirst
  obtain ⟨_, _, _, rfl⟩ := hsecond
  exact ⟨_, _, _, rfl⟩

theorem view (hs : Alike s s') : s'.view = s.view := by
  obtain ⟨_, _, _, rfl⟩ := hs
  rfl

theorem ifFree {next : Moment (σ × Record σ ι ρ) ι} (hnext : Alike s next) :
    Alike s (s.ifFree next) := by
  unfold Moment.ifFree
  split
  · exact hnext
  · exact refl

theorem proceed (hs : Alike s s') : Alike s.proceed s'.proceed := by
  obtain ⟨started, stopped, owner, rfl⟩ := hs
  obtain ⟨⟨waiting, _, _, _, _, _, _, _, _, _⟩, caller, _⟩ := s
  refine ⟨started, stopped, owner, ?_⟩
  cases caller <;> cases waiting <;> rfl

theorem iterate_proceed (hs : Alike s s') (k : ℕ) :
    Alike (Moment.proceed^[k] s) (Moment.proceed^[k] s') := by
  induction k generalizing s s' with
  | zero => exact hs
  | succ k ih => exact ih hs.proceed

end Alike

/-- A submission only touches the queue and what is counted of it. -/
theorem proceed_view (s : Moment (σ × Record σ ι ρ) ι) :
    s.proceed.view = { s.view with
      waiting := s.proceed.view.waiting, dropped := s.proceed.view.dropped,
      returned := s.proceed.view.returned } := by
  obtain ⟨⟨waiting, _, _, _, _, _, _, _, _, _⟩, caller, _⟩ := s
  cases caller <;> cases waiting <;> rfl

theorem iterate_proceed_view (s : Moment (σ × Record σ ι ρ) ι) (k : ℕ) :
    ∃ waiting dropped returned,
      (proceed^[k] s).view = { s.view with waiting, dropped, returned } := by
  induction k generalizing s with
  | zero => exact ⟨_, _, _, rfl⟩
  | succ k ih =>
      obtain ⟨waiting, dropped, returned, hk⟩ := ih s.proceed
      refine ⟨waiting, dropped, returned, ?_⟩
      rw [Function.iterate_succ_apply, hk, proceed_view]

/-- After a failure only a submission under way has an effect. -/
theorem play_failed (h : Handler σ ι ρ) {s : Moment (σ × Record σ ι ρ) ι}
    (hfailed : s.worker.failure.isSome) (m : Move σ ι) :
    let s' := s.play (recorded h) (m.recorded ρ)
    Alike s s' ∨ Alike s.proceed s' := by
  obtain ⟨f, hf⟩ := Option.isSome_iff_exists.mp hfailed
  cases m with
  | change g => exact .inl ⟨_, _, _, rfl⟩
  | act a =>
      cases a with
      | submit x =>
          refine .inl (Alike.ifFree ?_)
          simp [Moment.submit, submit_failed hf, Alike.refl]
      | start =>
          refine .inl (Alike.ifFree ?_)
          unfold start
          split
          · exact .refl
          · exact ⟨_, _, _, rfl⟩
      | close =>
          refine .inl (Alike.ifFree ?_)
          rw [close_failed _ hf]
          exact ⟨_, _, _, rfl⟩
      | waitIdle => exact .inl .refl
      | attempt x =>
          refine .inl (Alike.ifFree ?_)
          simp [attempt, report_failed hf, Alike.refl]
      | proceed => exact .inr .refl
      | closeEarly => exact .inl (Alike.ifFree ⟨_, _, _, rfl⟩)
      | take => exact .inl (.of_eq (take_failed hf))
      | takeLate => exact .inl (.of_eq (grab_failed hf))
      | finish =>
          have hfinish := Worker.finish_failed (recorded h) hf
          refine .inl ?_
          simp only [play, perform, Move.recorded, Moment.finish]
          split
          · exact .refl
          · exact .of_eq hfinish

theorem play_failure (h : Handler σ ι ρ) {s : Moment (σ × Record σ ι ρ) ι}
    (hfailed : s.worker.failure.isSome) (m : Move σ ι) :
    (s.play (recorded h) (m.recorded ρ)).worker.failure = s.worker.failure := by
  obtain halike | halike := play_failed h hfailed m
  · exact congrArg View.failure halike.view
  · exact congrArg View.failure (halike.view.trans s.proceed_view)

/-- A run after a failure comes to the pieces of a submission under way, and to nothing else. -/
theorem playAll_failed (h : Handler σ ι ρ) {s : Moment (σ × Record σ ι ρ) ι}
    (hfailed : s.worker.failure.isSome) (moves : List (Move σ ι)) :
    ∃ k, Alike (proceed^[k] s) (s.playAll (recorded h) (moves.map (Move.recorded ρ))) := by
  induction moves generalizing s with
  | nil => exact ⟨0, .refl⟩
  | cons m rest ih =>
      have hstill : (s.play (recorded h) (m.recorded ρ)).worker.failure.isSome := by
        rwa [play_failure h hfailed]
      obtain ⟨k, hk⟩ := ih hstill
      obtain halike | halike := play_failed h hfailed m
      · exact ⟨k, (halike.iterate_proceed k).trans hk⟩
      · exact ⟨k + 1, (halike.iterate_proceed k).trans hk⟩

/-- A submission has at most four pieces. -/
theorem caller_iterate_proceed (s : Moment σ ι) : (proceed^[4] s).caller = .free := by
  obtain ⟨⟨waiting, _, _, _, _, _, _, _, _, _⟩, caller, _⟩ := s
  cases caller <;> cases waiting <;> rfl

theorem iterate_proceed_free {s : Moment σ ι} (hfree : s.caller = .free) (k : ℕ) :
    proceed^[k] s = s := by
  refine Function.iterate_fixed ?_ k
  simp [proceed, hfree]

theorem iterate_proceed_le (s : Moment σ ι) (k : ℕ) : ∃ j ≤ 4, proceed^[k] s = proceed^[j] s := by
  obtain hle | hlt := le_or_gt k 4
  · exact ⟨k, hle, rfl⟩
  · refine ⟨4, le_rfl, ?_⟩
    obtain ⟨d, rfl⟩ := Nat.exists_eq_add_of_lt hlt
    rw [Nat.add_assoc, Nat.add_comm, Function.iterate_add_apply]
    exact iterate_proceed_free s.caller_iterate_proceed _

theorem play_free (h : Handler σ ι ρ) {s : Moment σ ι} (hfree : s.caller = .free) {m : Move σ ι}
    (hwhole : m.isWhole) : (s.play h m).caller = .free := by
  cases m with
  | change g => exact hfree
  | act a =>
      cases a with
      | attempt x => simp [Move.isWhole] at hwhole
      | proceed => simp [Move.isWhole] at hwhole
      | submit x =>
          simp only [play, perform, ifFree, hfree]
          unfold submit
          split <;> exact hfree
      | finish =>
          simp only [play, perform, finish]
          split <;> exact hfree
      | _ => simp [play, perform, ifFree, hfree]

theorem recordedRun_free (h : Handler σ ι ρ) (owner : σ) {moves : List (Move σ ι)}
    (hwhole : ∀ m ∈ moves, m.isWhole) : (recordedRun h owner moves).caller = .free := by
  induction moves using List.reverseRecOn with
  | nil => rfl
  | append_singleton moves m ih =>
      simp only [List.mem_append, List.mem_singleton] at hwhole
      have hbefore := ih fun m' hm => hwhole m' (.inl hm)
      have hm : (m.recorded ρ).isWhole := by
        have hm := hwhole m (.inr rfl)
        cases m with
        | act a => cases a <;> exact hm
        | change g => rfl
      simpa [recordedRun, playAll] using play_free (recorded h) hbefore hm

/-! ## Failures -/

/-- What every call reports at a moment, and that it leaves the worker as it is. -/
structure Reports (h : Handler σ ι ρ) (s : Moment (σ × Record σ ι ρ) ι) (f : Fault) : Prop where
  submit : ∀ x, s.worker.submit x = (.error (.workerFailed f), s.worker)
  attempt : ∀ x, s.attempt x = s
  waitIdle : s.worker.waitIdle = .error (.workerFailed f)
  close : s.worker.close (recorded h) =
    (.error (.workerFailed f), { s.worker with stopped := true })

/-- The item that failed is the last that was handled, the only one with a fault, and not counted
as processed. -/
def FailedAtLast (h : Handler σ ι ρ) (s : Moment (σ × Record σ ι ρ) ι) (f : Fault) : Prop :=
  ∃ done c, s.worker.owner.2.handled = done ++ [c] ∧ h.fault c = some f ∧
    (∀ d ∈ done, h.fault d = none) ∧ s.worker.current = some c.2 ∧
      s.worker.processed = done.length

theorem reports_of_failed (h : Handler σ ι ρ) {s : Moment (σ × Record σ ι ρ) ι} {f : Fault}
    (hf : s.worker.failure = some f) : s.Reports h f where
  submit := submit_failed hf
  attempt x := by simp [attempt, report_failed hf]
  waitIdle := waitIdle_failed hf
  close := close_failed (recorded h) hf

theorem Recorded.failedAtLast {h : Handler σ ι ρ} {s : Moment (σ × Record σ ι ρ) ι} {f : Fault}
    (hs : Recorded h s.view) (hf : s.worker.failure = some f) : s.FailedAtLast h f := by
  obtain ⟨c, hlast, hfault, hcurrent⟩ := hs.last f hf
  obtain ⟨done, hhandled⟩ := List.getLast?_eq_some_iff.mp hlast
  have hfaults := hs.faults
  have hcount := hs.processed
  have hfailure : s.view.failure = some f := hf
  refine ⟨done, c, hhandled, hfault, ?_, hcurrent, ?_⟩
  · simpa [hhandled, hfailure, hfault] using hfaults
  · change s.view.processed = done.length
    simpa [hhandled, hfailure] using hcount.symm

section Raised

variable {h : Handler σ ι ρ} {owner : σ} {before : List (Move σ ι)} {f : Fault}

theorem failure_of_raised
    (hraised : f ∈ (recordedRun h owner before).worker.owner.2.handled.filterMap h.fault) :
    (recordedRun h owner before).worker.failure = some f := by
  have hrecorded : Recorded h (recordedRun h owner before).view :=
    recorded_recordedRun h owner before
  have hmem : f ∈ (recordedRun h owner before).worker.failure.toList :=
    hrecorded.faults ▸ hraised
  simpa using hmem

/-- The one exception after a failure is a submission under way.  It comes to its end in at most
four pieces, and these touch the queue, the count of dropped items and the submissions that
returned. -/
theorem submission_ends_after_failure
    (hraised : f ∈ (recordedRun h owner before).worker.owner.2.handled.filterMap h.fault)
    (after : List (Move σ ι)) :
    let s := recordedRun h owner before
    let s' := recordedRun h owner (before ++ after)
    ∃ k ≤ 4, s'.view = (proceed^[k] s).view ∧ (proceed^[4] s).caller = .free ∧
      ∃ waiting dropped returned, s'.view = { s.view with waiting, dropped, returned } := by
  intro s s'
  have hlater : s' = s.playAll (recorded h) (after.map (Move.recorded ρ)) := by
    simp [s', s, recordedRun, playAll]
  have hfailed : s.worker.failure.isSome := by simp [s, failure_of_raised hraised]
  obtain ⟨n, hn⟩ := playAll_failed h hfailed after
  rw [← hlater] at hn
  obtain ⟨k, hk, hpieces⟩ := s.iterate_proceed_le n
  have hview : s'.view = (proceed^[k] s).view := hpieces ▸ hn.view
  obtain ⟨waiting, dropped, returned, hkept⟩ := s.iterate_proceed_view k
  exact ⟨k, hk, hview, s.caller_iterate_proceed, waiting, dropped, returned, hview.trans hkept⟩

/-- With no submission under way at the failure, nothing that tells of the items changes any more.
-/
theorem view_eq_of_raised_of_free
    (hraised : f ∈ (recordedRun h owner before).worker.owner.2.handled.filterMap h.fault)
    (hfree : (recordedRun h owner before).caller = .free) (after : List (Move σ ι)) :
    (recordedRun h owner (before ++ after)).view = (recordedRun h owner before).view := by
  obtain ⟨k, -, hview, -⟩ := submission_ends_after_failure hraised after
  rw [hview, iterate_proceed_free hfree]

end Raised

/-- A fault of the handler or of delivery is the last thing that happens to a worker.  At every
later moment each call reports it, and the items handled, the results delivered and the count of
them are those of the failure.  So are the queue and the count of dropped items, unless a submission
was under way, which then ends in at most four pieces. -/
theorem failure_is_final (h : Handler σ ι ρ) (owner : σ) (before after : List (Move σ ι))
    {f : Fault}
    (hraised : f ∈ (recordedRun h owner before).worker.owner.2.handled.filterMap h.fault) :
    let s := recordedRun h owner before
    let s' := recordedRun h owner (before ++ after)
    s'.worker.failure = some f ∧ s'.Reports h f ∧ s'.FailedAtLast h f ∧
      s'.worker.owner.2 = s.worker.owner.2 ∧ s'.worker.processed = s.worker.processed ∧
      ((∀ m ∈ before, m.isWhole) → s'.view = s.view) ∧
      ∃ k ≤ 4, s'.view = (proceed^[k] s).view ∧ (proceed^[4] s).caller = .free := by
  intro s s'
  obtain ⟨k, hk, hview, hends, waiting, dropped, returned, hfinal⟩ :=
    submission_ends_after_failure hraised after
  have hf' : s'.worker.failure = some f :=
    (congrArg View.failure hfinal).trans (failure_of_raised hraised)
  refine ⟨hf', reports_of_failed h hf', ?_, ?_, ?_, ?_, k, hk, hview, hends⟩
  · exact (recorded_recordedRun h owner (before ++ after)).failedAtLast hf'
  · exact congrArg View.record hfinal
  · exact congrArg View.processed hfinal
  · exact fun hwhole => view_eq_of_raised_of_free hraised (recordedRun_free h owner hwhole) after

/-- Delivery fails for the second item, after which another item is handed in and the worker is
closed. -/
theorem failure_is_final_delivery :
    let h : Handler Unit Nat Nat :=
      ⟨fun s x => (s, .ok x), fun s x => (s, if x = 2 then some .badIndex else none)⟩
    let act : Action Nat → Move Unit Nat := .act
    let before := [.start, .submit 1, .take, .finish, .submit 2, .take, .finish].map act
    let after := [.submit 3, .close, .take].map act
    let s := recordedRun h () before
    let s' := recordedRun h () (before ++ after)
    .badIndex ∈ s.worker.owner.2.handled.filterMap h.fault ∧ (∀ m ∈ before, m.isWhole) ∧
      s'.worker.failure = some .badIndex ∧ s'.Reports h .badIndex ∧ s'.view = s.view ∧
      s.worker.processed = 1 ∧ s.worker.owner.2.delivered = [1, 2] := by
  intro h act before after s s'
  have hraised : .badIndex ∈ s.worker.owner.2.handled.filterMap h.fault :=
    List.mem_singleton.mpr rfl
  have hwhole : ∀ m ∈ before, m.isWhole := by simp [before, act, Move.isWhole]
  obtain ⟨hfailure, hreports, -, -, -, hview, -⟩ := failure_is_final h () before after hraised
  exact ⟨hraised, hwhole, hfailure, hreports, hview hwhole, rfl, rfl⟩

end Moment
end Worker
end Fiducial
