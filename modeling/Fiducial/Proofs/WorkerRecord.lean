import Fiducial.Proofs.WorkerConservation

/-!
# What a handler is called with

A handler can be made to keep a record of the items that it is given and of the results that are
delivered.  The record changes nothing else in a run.  Between the actions of a run the caller may
change the state on which the handler works.

A move of a run has one of six effects, and the statements about whole runs are proved from them.
-/

namespace Fiducial

variable {σ ι ρ : Type}

namespace Handler

/-- The result that an item has in a state, if handling it does not fail. -/
def result (h : Handler σ ι ρ) (c : σ × ι) : Option ρ := (h.handle c.1 c.2).2.toOption

/-- The fault that an item meets in a state, in handling or in delivery. -/
def fault (h : Handler σ ι ρ) (c : σ × ι) : Option Fault :=
  match h.handle c.1 c.2 with
  | (_, .error f) => some f
  | (owner, .ok r) => (h.deliver owner r).2

/-- The state that an item leaves. -/
def after (h : Handler σ ι ρ) (c : σ × ι) : σ :=
  match h.handle c.1 c.2 with
  | (owner, .error _) => owner
  | (owner, .ok r) => (h.deliver owner r).1

end Handler

namespace Worker

/-- What a handler was called with. -/
structure Record (σ ι ρ : Type) where
  /-- The items that were handled, each with the state in which it was. -/
  handled : List (σ × ι)
  /-- The results that were given to delivery, also to one that failed. -/
  delivered : List ρ

namespace Record

def empty : Record σ ι ρ := ⟨[], []⟩

def handle (r : Record σ ι ρ) (c : σ × ι) : Record σ ι ρ := { r with handled := r.handled ++ [c] }

def deliver (r : Record σ ι ρ) (v : ρ) : Record σ ι ρ := { r with delivered := r.delivered ++ [v] }

/-- The record after one more item. -/
def add (h : Handler σ ι ρ) (r : Record σ ι ρ) (c : σ × ι) : Record σ ι ρ :=
  ⟨r.handled ++ [c], r.delivered ++ (h.result c).toList⟩

end Record

/-- The handler that keeps a record beside its state. -/
def recorded (h : Handler σ ι ρ) : Handler (σ × Record σ ι ρ) ι ρ where
  handle s x := (((h.handle s.1 x).1, s.2.handle (s.1, x)), (h.handle s.1 x).2)
  deliver s v := (((h.deliver s.1 v).1, s.2.deliver v), (h.deliver s.1 v).2)

/-- The end of an item in hand: it is counted, or its fault ends the worker. -/
theorem finish_recorded (h : Handler σ ι ρ) {w : Worker (σ × Record σ ι ρ) ι} {x : ι}
    (hcurrent : w.current = some x) (hfailure : w.failure = none) :
    finish (recorded h) w =
      let c := (w.owner.1, x)
      match h.fault c with
      | none => w.complete (h.after c, w.owner.2.add h c)
      | some f => w.fail (h.after c, w.owner.2.add h c) f := by
  simp only [finish, hcurrent, hfailure, recorded, Handler.fault, Handler.after, Record.add,
    Handler.result]
  rcases hhandle : h.handle w.owner.1 x with ⟨owner, _ | r⟩
  · simp [Record.handle, Except.toOption]
  · rcases hdeliver : h.deliver owner r with ⟨_, _ | f⟩ <;>
      simp [hdeliver, Record.handle, Record.deliver, Except.toOption]

/-- A worker with its handler's state seen through a function. -/
def onOwner {τ : Type} (g : σ → τ) (w : Worker σ ι) : Worker τ ι :=
  { w with owner := g w.owner }

theorem finish_onOwner {τ : Type} (g : σ → τ) {h : Handler σ ι ρ} {k : Handler τ ι ρ}
    (hhandle : ∀ s x, k.handle (g s) x = ((g (h.handle s x).1), (h.handle s x).2))
    (hdeliver : ∀ s v, k.deliver (g s) v = ((g (h.deliver s v).1), (h.deliver s v).2))
    (w : Worker σ ι) : finish k (w.onOwner g) = (finish h w).onOwner g := by
  obtain ⟨_, current, _, _, _, _, failure, _, _, owner⟩ := w
  cases current with
  | none => rfl
  | some x =>
      cases failure with
      | some f => rfl
      | none =>
          simp only [finish, onOwner, hhandle]
          rcases h.handle owner x with ⟨owner, _ | r⟩
          · rfl
          · simp only [hdeliver]
            rcases h.deliver owner r with ⟨_, _ | f⟩ <;> rfl

/-- A move of a run: an action, or a change by the caller of what the handler works on. -/
inductive Move (σ ι : Type) where
  | act (a : Action ι)
  | change (f : σ → σ)

/-- A change of a state leaves the record of it. -/
def Move.recorded (ρ : Type) : Move σ ι → Move (σ × Record σ ι ρ) ι
  | .act a => .act a
  | .change f => .change (Prod.map f id)

namespace Moment

def onOwner {τ : Type} (g : σ → τ) (s : Moment σ ι) : Moment τ ι :=
  { s with worker := s.worker.onOwner g }

def play (h : Handler σ ι ρ) (s : Moment σ ι) : Move σ ι → Moment σ ι
  | .act a => s.perform h a
  | .change f => s.onOwner f

def playAll (h : Handler σ ι ρ) (s : Moment σ ι) (moves : List (Move σ ι)) : Moment σ ι :=
  moves.foldl (play h) s

section Owner

variable {τ : Type} (g : σ → τ)

theorem proceed_onOwner (s : Moment σ ι) : (s.onOwner g).proceed = s.proceed.onOwner g := by
  obtain ⟨⟨waiting, _, _, _, _, _, _, _, _, _⟩, caller, _⟩ := s
  cases caller <;> cases waiting <;> rfl

theorem attempt_onOwner (s : Moment σ ι) (x : ι) :
    (s.onOwner g).attempt x = (s.attempt x).onOwner g := by
  obtain ⟨⟨_, _, _, _, _, _, failure, _, _, _⟩, _, _⟩ := s
  cases failure <;> rfl

theorem ifFree_onOwner (s : Moment σ ι) {next : Moment σ ι} {next' : Moment τ ι}
    (hnext : s.caller = .free → next' = next.onOwner g) :
    (s.onOwner g).ifFree next' = (s.ifFree next).onOwner g := by
  obtain ⟨w, caller, returned⟩ := s
  cases caller with
  | free => exact hnext rfl
  | _ => rfl

variable {h : Handler σ ι ρ} {k : Handler τ ι ρ}

theorem finish_onOwner
    (hhandle : ∀ s x, k.handle (g s) x = ((g (h.handle s x).1), (h.handle s x).2))
    (hdeliver : ∀ s v, k.deliver (g s) v = ((g (h.deliver s v).1), (h.deliver s v).2))
    (s : Moment σ ι) : (s.onOwner g).finish k = (s.finish h).onOwner g := by
  have hworker : Worker.finish k (s.onOwner g).worker = (Worker.finish h s.worker).onOwner g :=
    Worker.finish_onOwner g hhandle hdeliver s.worker
  unfold finish
  simp only [hworker]
  change (if s.caller.locked && (Worker.finish h s.worker).failure.isNone then _ else _) = _
  cases s.caller.locked && (Worker.finish h s.worker).failure.isNone <;> rfl

theorem perform_onOwner
    (hhandle : ∀ s x, k.handle (g s) x = ((g (h.handle s x).1), (h.handle s x).2))
    (hdeliver : ∀ s v, k.deliver (g s) v = ((g (h.deliver s v).1), (h.deliver s v).2))
    (s : Moment σ ι) (a : Action ι) : (s.onOwner g).perform k a = (s.perform h a).onOwner g := by
  have hfinish := finish_onOwner g hhandle hdeliver
  cases a with
  | submit x =>
      refine ifFree_onOwner g s fun hfree => ?_
      rw [submit_eq_pieces hfree, submit_eq_pieces (s := s.onOwner g) hfree, attempt_onOwner]
      simp only [proceed_onOwner]
  | start =>
      refine ifFree_onOwner g s fun _ => ?_
      obtain ⟨⟨_, _, _, _, _, _, _, started, _, _⟩, _, _⟩ := s
      cases started <;> rfl
  | close =>
      refine ifFree_onOwner g s fun hfree => ?_
      rw [close_eq_finish h hfree, close_eq_finish k (s := s.onOwner g) hfree]
      exact hfinish { s with worker := { s.worker with stopped := true } }
  | waitIdle => rfl
  | attempt x => exact ifFree_onOwner g s fun _ => attempt_onOwner g s x
  | proceed => exact proceed_onOwner g s
  | closeEarly => exact ifFree_onOwner g s fun _ => rfl
  | take =>
      obtain ⟨⟨_, current, _, _, _, _, failure, started, stopped, _⟩, _, _⟩ := s
      cases current <;> cases failure <;> cases started <;> cases stopped <;> rfl
  | takeLate =>
      obtain ⟨⟨_, current, _, _, _, _, failure, started, _, _⟩, _, _⟩ := s
      cases current <;> cases failure <;> cases started <;> rfl
  | finish => exact hfinish s

/-- Two runs whose moves correspond stay the same, seen through a function of the owners. -/
theorem playAll_onOwner {μ : Type} {a : μ → Move σ ι} {b : μ → Move τ ι}
    (hplay : ∀ s m, (play h s (a m)).onOwner g = play k (s.onOwner g) (b m))
    (s : Moment σ ι) (moves : List μ) :
    (s.playAll h (moves.map a)).onOwner g = (s.onOwner g).playAll k (moves.map b) := by
  induction moves generalizing s with
  | nil => rfl
  | cons m rest ih => exact (ih _).trans (congrArg (playAll k · (rest.map b)) (hplay s m))

end Owner

/-- The record has no influence on a run. -/
theorem playAll_recorded (h : Handler σ ι ρ) (s : Moment (σ × Record σ ι ρ) ι)
    (moves : List (Move σ ι)) :
    (s.playAll (recorded h) (moves.map (Move.recorded ρ))).onOwner Prod.fst =
      (s.onOwner Prod.fst).playAll h moves := by
  have hplay : ∀ s m, (play (recorded h) s (Move.recorded ρ m)).onOwner Prod.fst =
      play h (s.onOwner Prod.fst) m := by
    intro s m
    cases m with
    | act a => exact (perform_onOwner Prod.fst (fun _ _ => rfl) (fun _ _ => rfl) s a).symm
    | change f => rfl
  simpa using playAll_onOwner Prod.fst hplay s moves

/-! ## Effects -/

/-- The parts of a moment that tell what became of the items. -/
structure View (σ ι ρ : Type) where
  waiting : Option ι
  current : Option ι
  dropped : Nat
  processed : Nat
  failure : Option Fault
  record : Record σ ι ρ
  returned : List ι

def view (s : Moment (σ × Record σ ι ρ) ι) : View σ ι ρ :=
  ⟨s.worker.waiting, s.worker.current, s.worker.dropped, s.worker.processed, s.worker.failure,
    s.worker.owner.2, s.returned⟩

/-- What a move does: nothing of note, or one of six things. -/
inductive Effect (h : Handler σ ι ρ) (s : Moment (σ × Record σ ι ρ) ι) (m : Move σ ι)
    (s' : Moment (σ × Record σ ι ρ) ι) : Prop where
  | quiet (hcaller : ∀ x, s.caller = .again x → s'.caller = .again x) (hview : s'.view = s.view)
  /-- The item of a submission takes the free place. -/
  | put (x : ι) (hwaiting : s.view.waiting = none) (hcaller : s'.caller = .free)
      (hview : s'.view = { s.view with waiting := some x, returned := s.view.returned ++ [x] })
  /-- A submission as one action drops the item that waits and takes its place. -/
  | replace (x y : ι) (hmove : m = .act (.submit x)) (hwaiting : s.view.waiting = some y)
      (hcaller : s'.caller = .free)
      (hview : s'.view = { s.view with
        waiting := some x, dropped := s.view.dropped + 1, returned := s.view.returned ++ [x] })
  /-- A submission under way drops the item that waits. -/
  | evict (x y : ι) (hmove : m = .act .proceed) (hwaiting : s.view.waiting = some y)
      (hfull : s.caller = .full x) (hcaller : s'.caller = .again x)
      (hview : s'.view = { s.view with waiting := none, dropped := s.view.dropped + 1 })
  | grab (hcurrent : s.view.current = none) (hfailure : s.view.failure = none)
      (hcaller : s'.caller = s.caller)
      (hview : s'.view = { s.view with current := s.view.waiting, waiting := none })
  | complete (x : ι) (hcurrent : s.view.current = some x) (hfailure : s.view.failure = none)
      (hcaller : s'.caller = s.caller) (hfault : h.fault (s.worker.owner.1, x) = none)
      (hview : s'.view = { s.view with
        current := none, processed := s.view.processed + 1,
        record := s.view.record.add h (s.worker.owner.1, x) })
  | fail (x : ι) (f : Fault) (hcurrent : s.view.current = some x)
      (hfailure : s.view.failure = none) (hcaller : s'.caller = s.caller)
      (hfault : h.fault (s.worker.owner.1, x) = some f)
      (hview : s'.view = { s.view with
        failure := some f, record := s.view.record.add h (s.worker.owner.1, x) })

theorem finish_recorded (h : Handler σ ι ρ) (s : Moment (σ × Record σ ι ρ) ι) :
    s.finish (recorded h) = s ∨
      ∃ x, s.worker.current = some x ∧ s.worker.failure = none ∧
        let c := (s.worker.owner.1, x)
        let owner := (h.after c, s.worker.owner.2.add h c)
        (h.fault c = none ∧
            s.finish (recorded h) = { s with worker := s.worker.complete owner }) ∨
          ∃ f, h.fault c = some f ∧
            s.finish (recorded h) = { s with worker := s.worker.fail owner f } := by
  cases hcurrent : s.worker.current with
  | none => exact .inl (by simp [finish, Worker.finish, hcurrent])
  | some x =>
      cases hfailure : s.worker.failure with
      | some f => exact .inl (by simp [finish, Worker.finish, hcurrent, hfailure])
      | none =>
          have hend := Worker.finish_recorded h hcurrent hfailure
          cases hfault : h.fault (s.worker.owner.1, x) with
          | none =>
              simp only [hfault] at hend
              cases hlocked : s.caller.locked with
              | true => exact .inl (by simp [finish, hend, hlocked, complete, hfailure])
              | false => exact .inr ⟨x, rfl, rfl, .inl ⟨hfault, by simp [finish, hend, hlocked]⟩⟩
          | some f =>
              simp only [hfault] at hend
              exact .inr ⟨x, rfl, rfl, .inr ⟨f, hfault, by simp [finish, hend, fail, hfailure]⟩⟩

namespace Effect

variable {h : Handler σ ι ρ} {s s' : Moment (σ × Record σ ι ρ) ι} {m : Move σ ι}

theorem refl : Effect h s m s := .quiet (fun _ hcaller => hcaller) rfl

theorem of_ifFree {next : Moment (σ × Record σ ι ρ) ι}
    (hnext : s.caller = .free → Effect h s m next) : Effect h s m (s.ifFree next) := by
  unfold Moment.ifFree
  split
  next hfree => exact hnext hfree
  next => exact refl

theorem of_submit (hfree : s.caller = .free) (x : ι) :
    Effect h s (.act (.submit x)) (s.submit x) := by
  obtain ⟨⟨waiting, _, _, _, _, _, failure, _, _, _⟩, caller, _⟩ := s
  obtain rfl : caller = .free := hfree
  cases failure with
  | some f => exact refl
  | none =>
      cases waiting with
      | none => exact .put x rfl rfl rfl
      | some y => exact .replace x y rfl rfl rfl (by
          simp [Moment.view, Moment.submit, Worker.submit, report, place, offer, Worker.evict])

theorem of_proceed (hs : s.Conserved) : Effect h s (.act .proceed) s.proceed := by
  have hroom := hs.room
  obtain ⟨⟨waiting, _, _, _, _, _, failure, _, _, _⟩, caller, _⟩ := s
  cases caller with
  | free => exact refl
  | checked x => exact .quiet (by simp) rfl
  | cleared x =>
      cases waiting with
      | none => exact .put x rfl rfl rfl
      | some y => exact .quiet (by simp) rfl
  | full x =>
      cases waiting with
      | none => exact .quiet (by simp) rfl
      | some y => exact .evict x y rfl rfl rfl rfl rfl
  | again x =>
      obtain rfl : waiting = none := hroom x rfl
      exact .put x rfl rfl rfl

theorem of_grab : Effect h s m { s with worker := s.worker.grab } := by
  unfold Worker.grab
  split
  next hready =>
    simp only [Bool.and_eq_true, Option.isNone_iff_eq_none] at hready
    exact .grab hready.2 hready.1.2 rfl rfl
  next => exact refl

theorem of_take : Effect h s m { s with worker := s.worker.take } := by
  rw [take_eq_grab]
  split
  · exact refl
  · exact of_grab

theorem of_finish : Effect h s m (s.finish (recorded h)) := by
  obtain hnothing | ⟨x, hcurrent, hfailure, hend⟩ := s.finish_recorded h
  · rw [hnothing]
    exact refl
  · obtain ⟨hfault, hcomplete⟩ | ⟨f, hfault, hfail⟩ := hend
    · rw [hcomplete]
      exact .complete x hcurrent hfailure rfl hfault rfl
    · rw [hfail]
      exact .fail x f hcurrent hfailure rfl hfault (by simp [Moment.view, Worker.fail, hfailure])

/-- A stop in front of an effect shows in none of them. -/
theorem of_stopped
    (he : Effect h { s with worker := { s.worker with stopped := true } } m s') :
    Effect h s m s' := by
  cases he with
  | quiet hcaller hview => exact .quiet hcaller hview
  | put x hwaiting hcaller hview => exact .put x hwaiting hcaller hview
  | replace x y hmove hwaiting hcaller hview => exact .replace x y hmove hwaiting hcaller hview
  | evict x y hmove hwaiting hfull hcaller hview =>
      exact .evict x y hmove hwaiting hfull hcaller hview
  | grab hcurrent hfailure hcaller hview => exact .grab hcurrent hfailure hcaller hview
  | complete x hcurrent hfailure hcaller hfault hview =>
      exact .complete x hcurrent hfailure hcaller hfault hview
  | fail x f hcurrent hfailure hcaller hfault hview =>
      exact .fail x f hcurrent hfailure hcaller hfault hview

end Effect

theorem play_effect (h : Handler σ ι ρ) {s : Moment (σ × Record σ ι ρ) ι} (hs : s.Conserved)
    (m : Move σ ι) : Effect h s m (s.play (recorded h) (m.recorded ρ)) := by
  cases m with
  | change f => exact .quiet (fun _ hcaller => hcaller) rfl
  | act a =>
      cases a with
      | submit x => exact .of_ifFree fun hfree => .of_submit hfree x
      | start =>
          refine .of_ifFree fun _ => ?_
          unfold start
          split <;> exact .quiet (fun _ hcaller => hcaller) rfl
      | close =>
          refine .of_ifFree fun hfree => ?_
          rw [close_eq_finish _ hfree]
          exact .of_stopped .of_finish
      | waitIdle => exact .refl
      | attempt x =>
          refine .of_ifFree fun hfree => ?_
          unfold attempt
          split
          · exact .quiet (by simp [hfree]) rfl
          · exact .refl
      | proceed => exact .of_proceed hs
      | closeEarly => exact .of_ifFree fun _ => .quiet (fun _ hcaller => hcaller) rfl
      | take => exact .of_take
      | takeLate => exact .of_grab
      | finish => exact .of_finish

theorem Conserved.play (h : Handler σ ι ρ) {s : Moment σ ι} (hs : s.Conserved) (m : Move σ ι) :
    (s.play h m).Conserved := by
  cases m with
  | act a => exact hs.perform h a
  | change f =>
      have hbalanced := hs.balanced
      exact ⟨⟨hbalanced.items, hbalanced.pending, hbalanced.failed⟩, hs.idle, hs.room⟩

/-! ## The record -/

/-- How the record goes with a moment. -/
structure Recorded (h : Handler σ ι ρ) (v : View σ ι ρ) : Prop where
  delivered : v.record.delivered = v.record.handled.filterMap h.result
  faults : v.record.handled.filterMap h.fault = v.failure.toList
  processed : v.record.handled.length = v.processed + v.failure.toList.length
  last : ∀ f, v.failure = some f →
    ∃ c, v.record.handled.getLast? = some c ∧ h.fault c = some f ∧ v.current = some c.2

theorem recorded_atRest (h : Handler σ ι ρ) (owner : σ) :
    Recorded h (atRest (owner, .empty) : Moment (σ × Record σ ι ρ) ι).view :=
  ⟨rfl, rfl, rfl, nofun⟩

namespace Recorded

variable {h : Handler σ ι ρ} {v v' : View σ ι ρ}

theorem same (hv : Recorded h v) (hrecord : v'.record = v.record)
    (hfailure : v'.failure = v.failure)
    (hprocessed : v'.processed = v.processed)
    (hcurrent : v.failure.isSome → v'.current = v.current) : Recorded h v' := by
  obtain ⟨hdelivered, hfaults, hcount, hlast⟩ := hv
  refine ⟨hrecord ▸ hdelivered, by rw [hrecord, hfailure, hfaults],
    by rw [hrecord, hfailure, hprocessed, hcount], fun f hf => ?_⟩
  have hf : v.failure = some f := hfailure ▸ hf
  rw [hrecord, hcurrent (by simp [hf])]
  exact hlast f hf

theorem delivered_add (hv : Recorded h v) (c : σ × ι) :
    (v.record.add h c).delivered = (v.record.add h c).handled.filterMap h.result := by
  have hresult : [c].filterMap h.result = (h.result c).toList := by
    cases hc : h.result c <;> simp [hc]
  simp only [Record.add, List.filterMap_append, hv.delivered, hresult]

theorem faults_add (hv : Recorded h v) (c : σ × ι) :
    (v.record.add h c).handled.filterMap h.fault = v.failure.toList ++ (h.fault c).toList := by
  have hfault : [c].filterMap h.fault = (h.fault c).toList := by
    cases hc : h.fault c <;> simp [hc]
  simp only [Record.add, List.filterMap_append, hv.faults, hfault]

end Recorded

theorem Effect.recorded {h : Handler σ ι ρ} {s s' : Moment (σ × Record σ ι ρ) ι} {m : Move σ ι}
    (he : Effect h s m s') (hs : Recorded h s.view) : Recorded h s'.view := by
  cases he with
  | quiet _ hview => rwa [hview]
  | put _ _ _ hview | replace _ _ _ _ _ hview | evict _ _ _ _ _ _ hview =>
      rw [hview]
      exact hs.same rfl rfl rfl fun _ => rfl
  | grab _ hfailure _ hview =>
      rw [hview]
      exact hs.same rfl rfl rfl fun hfailed => by simp [hfailure] at hfailed
  | complete x hcurrent hfailure _ hfault hview =>
      have hdelivered := hs.delivered_add (s.worker.owner.1, x)
      have hfaults := hs.faults_add (s.worker.owner.1, x)
      have hcount := hs.processed
      rw [hview]
      simp only [hfailure, hfault, Option.toList_none, List.append_nil, List.length_nil]
        at hfaults hcount
      exact ⟨hdelivered, by simpa [hfailure] using hfaults, by simp [Record.add, hcount, hfailure],
        by simp [hfailure]⟩
  | fail x f hcurrent hfailure _ hfault hview =>
      have hdelivered := hs.delivered_add (s.worker.owner.1, x)
      have hfaults := hs.faults_add (s.worker.owner.1, x)
      have hcount := hs.processed
      rw [hview]
      simp only [hfailure, hfault, Option.toList_none, List.nil_append, List.length_nil]
        at hfaults hcount
      refine ⟨hdelivered, by simpa using hfaults, by simp [Record.add, hcount], ?_⟩
      rintro _ ⟨⟩
      exact ⟨(s.worker.owner.1, x), by simp [Record.add], hfault, hcurrent⟩

/-- The moment after some moves of a worker that keeps a record. -/
def recordedRun (h : Handler σ ι ρ) (owner : σ) (moves : List (Move σ ι)) :
    Moment (σ × Record σ ι ρ) ι :=
  (atRest (owner, .empty)).playAll (recorded h) (moves.map (Move.recorded ρ))

theorem recordedRun_onOwner (h : Handler σ ι ρ) (owner : σ) (moves : List (Move σ ι)) :
    (recordedRun h owner moves).onOwner Prod.fst = (atRest owner).playAll h moves :=
  playAll_recorded h _ moves

theorem Recorded.playAll {h : Handler σ ι ρ} {s : Moment (σ × Record σ ι ρ) ι}
    (hconserved : s.Conserved) (hs : Recorded h s.view) (moves : List (Move σ ι)) :
    Recorded h (s.playAll (recorded h) (moves.map (Move.recorded ρ))).view := by
  induction moves generalizing s with
  | nil => exact hs
  | cons m rest ih => exact ih (hconserved.play _ _) ((play_effect h hconserved m).recorded hs)

theorem recorded_recordedRun (h : Handler σ ι ρ) (owner : σ) (moves : List (Move σ ι)) :
    Recorded h (recordedRun h owner moves).view :=
  (recorded_atRest h owner).playAll (conserved_atRest _) moves

end Moment
end Worker
end Fiducial
