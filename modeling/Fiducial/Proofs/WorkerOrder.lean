import Fiducial.Proofs.FrameReports

/-!
# A worker handles the latest item, in order

Every item whose submission returned has one fate at each moment: it waits, it was taken by the
worker, or it was dropped.  Only the latest can wait.  The worker takes it from there, or a later
submission drops it, so the items taken stand in the order of their submissions and the latest item
is never lost.  What is delivered are the results of the items that were handled, in that order.
-/

namespace Fiducial
namespace Worker

variable {σ ι ρ : Type}

/-! ## Fates -/

inductive Fate where
  | waiting
  | taken
  | dropped
deriving DecidableEq, Repr

namespace Fate

/-- The items that have a fate. -/
def select (f : Fate) (fates : List (ι × Fate)) : List ι := (fates.filter (·.2 = f)).map (·.1)

/-- Gives another fate to what waits. -/
def settle (f : Fate) (fates : List (ι × Fate)) : List (ι × Fate) :=
  fates.map fun e => if e.2 = .waiting then (e.1, f) else e

def Settled (fates : List (ι × Fate)) : Prop := ∀ e ∈ fates, e.2 ≠ .waiting

@[simp] theorem select_append (f : Fate) (a b : List (ι × Fate)) :
    select f (a ++ b) = select f a ++ select f b := by
  simp [select]

@[simp] theorem select_singleton (f g : Fate) (x : ι) :
    select f [(x, g)] = if g = f then [x] else [] := by
  by_cases hfate : g = f <;> simp [select, hfate]

@[simp] theorem settle_append (f : Fate) (a b : List (ι × Fate)) :
    settle f (a ++ b) = settle f a ++ settle f b := by
  simp [settle]

@[simp] theorem settle_waiting (f : Fate) (x : ι) : settle f [(x, .waiting)] = [(x, f)] := rfl

theorem Settled.settle {fates : List (ι × Fate)} (hsettled : Settled fates) (f : Fate) :
    Fate.settle f fates = fates := by
  refine (List.map_congr_left fun e he => ?_).trans (List.map_id fates)
  simp [hsettled e he]

theorem Settled.select_waiting {fates : List (ι × Fate)} (hsettled : Settled fates) :
    select .waiting fates = [] := by
  rw [select, List.filter_eq_nil_iff.mpr fun e he => by simpa using hsettled e he, List.map_nil]

theorem Settled.concat {fates : List (ι × Fate)} (hsettled : Settled fates) {f : Fate}
    (hf : f ≠ .waiting) (x : ι) : Settled (fates ++ [(x, f)]) := by
  intro e he
  obtain he | he := List.mem_append.mp he
  · exact hsettled e he
  · obtain rfl := List.mem_singleton.mp he
    exact hf

theorem select_sublist (f : Fate) (fates : List (ι × Fate)) :
    (select f fates).Sublist (fates.map (·.1)) :=
  List.filter_sublist.map _

end Fate

/-! ## Runs -/

namespace Moment

/-- The items that the worker took, in order: those handled and the one in hand. -/
def View.taken (v : View σ ι ρ) : List ι :=
  v.record.handled.map (·.2) ++ if v.failure.isNone then v.current.toList else []

/-- The fates after a move, told from the hand and the counts of the worker before and after it.
An item that is new waits. -/
def View.follow (v v' : View σ ι ρ) (fates : List (ι × Fate)) : List (ι × Fate) :=
  let settled :=
    if v.dropped < v'.dropped then Fate.settle .dropped fates
    else if v.current.isNone && v'.current.isSome then Fate.settle .taken fates
    else fates
  settled ++ (v'.returned.drop v.returned.length).map (·, .waiting)

namespace View

variable {v v' : View σ ι ρ} (fates : List (ι × Fate))

theorem follow_of_dropped (hdropped : v'.dropped = v.dropped + 1) :
    v.follow v' fates =
      Fate.settle .dropped fates ++ (v'.returned.drop v.returned.length).map (·, .waiting) := by
  simp [follow, hdropped]

theorem follow_of_taken (hdropped : v'.dropped = v.dropped) (hempty : v.current = none)
    (htaken : v'.current.isSome) :
    v.follow v' fates =
      Fate.settle .taken fates ++ (v'.returned.drop v.returned.length).map (·, .waiting) := by
  simp [follow, hdropped, hempty, htaken]

theorem follow_of_kept (hdropped : v'.dropped = v.dropped)
    (hcurrent : v.current.isSome ∨ v'.current = v.current) :
    v.follow v' fates = fates ++ (v'.returned.drop v.returned.length).map (·, .waiting) := by
  have hnot : (v.current.isNone && v'.current.isSome) = false := by
    obtain hsome | hsame := hcurrent
    · simp [Option.isNone_eq_false_iff.mpr hsome]
    · rw [hsame]
      cases v.current <;> rfl
  simp [follow, hdropped, hnot]

end View

end Moment

/-- A moment with the fates of the items whose submissions returned, in their order. -/
structure Course (σ ι ρ : Type) where
  moment : Moment (σ × Record σ ι ρ) ι
  fates : List (ι × Fate)

namespace Course

def start (owner : σ) : Course σ ι ρ := ⟨Moment.atRest (owner, .empty), []⟩

def play (h : Handler σ ι ρ) (c : Course σ ι ρ) (m : Move σ ι) : Course σ ι ρ :=
  let next := c.moment.play (recorded h) (m.recorded ρ)
  ⟨next, c.moment.view.follow next.view c.fates⟩

def playAll (h : Handler σ ι ρ) (c : Course σ ι ρ) (moves : List (Move σ ι)) : Course σ ι ρ :=
  moves.foldl (play h) c

theorem moment_playAll (h : Handler σ ι ρ) (c : Course σ ι ρ) (moves : List (Move σ ι)) :
    (c.playAll h moves).moment = c.moment.playAll (recorded h) (moves.map (Move.recorded ρ)) := by
  induction moves generalizing c with
  | nil => rfl
  | cons m rest ih => exact ih (c.play h m)

end Course

namespace Moment

/-- How the fates of items go with a moment. -/
structure Followed (v : View σ ι ρ) (fates : List (ι × Fate)) : Prop where
  items : fates.map (·.1) = v.returned
  /-- Only the latest item can wait. -/
  waiting : ∃ front, Fate.Settled front ∧ fates = front ++ v.waiting.toList.map (·, .waiting)
  taken : Fate.select .taken fates = v.taken
  dropped : (Fate.select .dropped fates).length = v.dropped

namespace Followed

variable {v v' : View σ ι ρ} {fates : List (ι × Fate)}

theorem settled (hv : Followed v fates) (hwaiting : v.waiting = none) : Fate.Settled fates := by
  obtain ⟨front, hfront, rfl⟩ := hv.waiting
  simpa [hwaiting] using hfront

theorem front_of_waiting (hv : Followed v fates) {y : ι} (hwaiting : v.waiting = some y) :
    ∃ front, Fate.Settled front ∧ fates = front ++ [(y, .waiting)] := by
  simpa [hwaiting] using hv.waiting

theorem waiting_of_getElem? (hv : Followed v fates) {i : ℕ} {y : ι}
    (hentry : fates[i]? = some (y, .waiting)) :
    v.waiting = some y ∧ i + 1 = v.returned.length := by
  have hlength : fates.length = v.returned.length := by simp [← hv.items]
  cases hwaiting : v.waiting with
  | none => exact absurd rfl (hv.settled hwaiting _ (List.mem_of_getElem? hentry))
  | some x =>
      obtain ⟨front, hfront, rfl⟩ := hv.front_of_waiting hwaiting
      have hlast : i = front.length := by
        by_contra hne
        have hmem : (y, Fate.waiting) ∈ front := by grind
        exact hfront _ hmem rfl
      subst hlast
      exact ⟨by grind, by simpa using hlength⟩

/-- What a move does not touch, the fates do not show. -/
theorem same (hv : Followed v fates) (hreturned : v'.returned = v.returned)
    (hwaiting : v'.waiting = v.waiting) (htaken : v'.taken = v.taken)
    (hdropped : v'.dropped = v.dropped) : Followed v' fates :=
  ⟨hreturned ▸ hv.items, hwaiting ▸ hv.waiting, htaken ▸ hv.taken, hdropped ▸ hv.dropped⟩

theorem put (hv : Followed v fates) (hfree : v.waiting = none) {x : ι}
    (hreturned : v'.returned = v.returned ++ [x]) (hwaiting : v'.waiting = some x)
    (htaken : v'.taken = v.taken) (hdropped : v'.dropped = v.dropped) :
    Followed v' (fates ++ [(x, .waiting)]) := by
  constructor
  · simp [hv.items, hreturned]
  · exact ⟨fates, hv.settled hfree, by simp [hwaiting]⟩
  · simp [hv.taken, htaken]
  · simp [hv.dropped, hdropped]

/-- The item that waits is taken, or dropped. -/
theorem settle {front : List (ι × Fate)} {y : ι} (hv : Followed v (front ++ [(y, .waiting)]))
    (hfront : Fate.Settled front) {f : Fate} (hf : f ≠ .waiting)
    (hreturned : v'.returned = v.returned) (hwaiting : v'.waiting = none)
    (htaken : v'.taken = v.taken ++ if f = .taken then [y] else [])
    (hdropped : v'.dropped = v.dropped + if f = .dropped then 1 else 0) :
    Followed v' (front ++ [(y, f)]) := by
  have htook := hv.taken
  have hcount := hv.dropped
  simp only [Fate.select_append, Fate.select_singleton, reduceCtorEq, if_false,
    List.append_nil] at htook hcount
  constructor
  · simpa [hreturned] using hv.items
  · exact ⟨front ++ [(y, f)], hfront.concat hf y, by simp [hwaiting]⟩
  · simp [htook, htaken]
  · simp only [Fate.select_append, Fate.select_singleton, List.length_append, hcount, hdropped]
    split <;> simp

end Followed

/-- What a move can do to the fates: nothing, or one of four things. -/
inductive Turn (s : Moment (σ × Record σ ι ρ) ι) (m : Move σ ι)
    (s' : Moment (σ × Record σ ι ρ) ι) : List (ι × Fate) → List (ι × Fate) → Prop where
  | same (hcaller : ∀ x, s.caller = .again x → s'.caller = .again x) (fates : List (ι × Fate)) :
      Turn s m s' fates fates
  | wait (fates : List (ι × Fate)) (x : ι) : Turn s m s' fates (fates ++ [(x, .waiting)])
  | replace (front : List (ι × Fate)) (y x : ι) (hmove : m = .act (.submit x)) :
      Turn s m s' (front ++ [(y, .waiting)]) (front ++ [(y, .dropped)] ++ [(x, .waiting)])
  | drop (front : List (ι × Fate)) (y x : ι) (hmove : m = .act .proceed)
      (hfull : s.caller = .full x) (hcaller : s'.caller = .again x) :
      Turn s m s' (front ++ [(y, .waiting)]) (front ++ [(y, .dropped)])
  | take (front : List (ι × Fate)) (y : ι) :
      Turn s m s' (front ++ [(y, .waiting)]) (front ++ [(y, .taken)])

/-- The fates keep up with every effect. -/
theorem Effect.turn {h : Handler σ ι ρ} {s s' : Moment (σ × Record σ ι ρ) ι} {m : Move σ ι}
    (he : Effect h s m s') {fates : List (ι × Fate)} (hs : Followed s.view fates) :
    Turn s m s' fates (s.view.follow s'.view fates) ∧
      Followed s'.view (s.view.follow s'.view fates) := by
  cases he with
  | quiet hcaller hview =>
      have hfollow : s.view.follow s'.view fates = fates := by
        rw [hview, View.follow_of_kept fates rfl (.inr rfl)]
        simp
      rw [hfollow, hview]
      exact ⟨.same hcaller fates, hs⟩
  | put x hwaiting _ hview =>
      have hfollow : s.view.follow s'.view fates = fates ++ [(x, .waiting)] := by
        rw [View.follow_of_kept fates (by simp [hview]) (.inr (by simp [hview]))]
        simp [hview]
      rw [hfollow, hview]
      exact ⟨.wait fates x, hs.put hwaiting rfl rfl rfl rfl⟩
  | replace x y hmove hwaiting _ hview =>
      obtain ⟨front, hfront, rfl⟩ := hs.front_of_waiting hwaiting
      have hfollow : s.view.follow s'.view (front ++ [(y, .waiting)]) =
          front ++ [(y, .dropped)] ++ [(x, .waiting)] := by
        rw [View.follow_of_dropped _ (by simp [hview])]
        simp [hview, hfront.settle]
      let between : View σ ι ρ := { s.view with waiting := none, dropped := s.view.dropped + 1 }
      have hbetween : Followed between (front ++ [(y, .dropped)]) :=
        hs.settle hfront (by decide) rfl rfl (by simp [View.taken, between]) rfl
      rw [hfollow, hview]
      exact ⟨.replace front y x hmove, hbetween.put rfl rfl rfl rfl rfl⟩
  | evict x y hmove hwaiting hfull hcaller hview =>
      obtain ⟨front, hfront, rfl⟩ := hs.front_of_waiting hwaiting
      have hfollow : s.view.follow s'.view (front ++ [(y, .waiting)]) =
          front ++ [(y, .dropped)] := by
        rw [View.follow_of_dropped _ (by simp [hview])]
        simp [hview, hfront.settle]
      rw [hfollow, hview]
      exact ⟨.drop front y x hmove hfull hcaller,
        hs.settle hfront (by decide) rfl rfl (by simp [View.taken]) rfl⟩
  | grab hcurrent hfailure hcaller hview =>
      have htaken : s'.view.taken = s.view.taken ++ s.view.waiting.toList := by
        simp [hview, View.taken, hcurrent, hfailure]
      cases hwaiting : s.view.waiting with
      | none =>
          have hfollow : s.view.follow s'.view fates = fates := by
            rw [View.follow_of_kept fates (by simp [hview])
              (.inr (by simp [hview, hcurrent, hwaiting]))]
            simp [hview]
          rw [hfollow]
          exact ⟨.same (by simp [hcaller]) fates, hs.same (by simp [hview])
            (by simp [hview, hwaiting]) (by simp [htaken, hwaiting]) (by simp [hview])⟩
      | some y =>
          obtain ⟨front, hfront, rfl⟩ := hs.front_of_waiting hwaiting
          have hfollow : s.view.follow s'.view (front ++ [(y, .waiting)]) =
              front ++ [(y, .taken)] := by
            rw [View.follow_of_taken _ (by simp [hview]) hcurrent (by simp [hview, hwaiting])]
            simp [hview, hfront.settle]
          rw [hfollow]
          exact ⟨.take front y, hs.settle hfront (by decide) (by simp [hview])
            (by simp [hview]) (by simp [htaken, hwaiting]) (by simp [hview])⟩
  | complete x hcurrent hfailure hcaller _ hview =>
      have hfollow : s.view.follow s'.view fates = fates := by
        rw [View.follow_of_kept fates (by simp [hview]) (.inl (by simp [hcurrent]))]
        simp [hview]
      rw [hfollow]
      exact ⟨.same (by simp [hcaller]) fates, hs.same (by simp [hview]) (by simp [hview])
        (by simp [hview, View.taken, hcurrent, hfailure, Record.add]) (by simp [hview])⟩
  | fail x f hcurrent hfailure hcaller _ hview =>
      have hfollow : s.view.follow s'.view fates = fates := by
        rw [View.follow_of_kept fates (by simp [hview]) (.inr (by simp [hview]))]
        simp [hview]
      rw [hfollow]
      exact ⟨.same (by simp [hcaller]) fates, hs.same (by simp [hview]) (by simp [hview])
        (by simp [hview, View.taken, hcurrent, hfailure, Record.add]) (by simp [hview])⟩

/-- A move by which the submission of an item comes to the queue. -/
def Submits (s : Moment (σ × Record σ ι ρ) ι) (m : Move σ ι) (z : ι) : Prop :=
  m = .act (.submit z) ∨ m = .act .proceed ∧ s.caller = .full z

namespace Turn

variable {s s' : Moment (σ × Record σ ι ρ) ι} {m : Move σ ι} {fates fates' : List (ι × Fate)}

theorem latest (ht : Turn s m s' fates fates')
    (hs : (∀ x, s.caller ≠ .again x) → ∀ e, fates.getLast? = some e → e.2 ≠ .dropped)
    (hsettled : ∀ x, s'.caller ≠ .again x) : ∀ e, fates'.getLast? = some e → e.2 ≠ .dropped := by
  cases ht with
  | same hcaller => exact hs fun x hagain => hsettled x (hcaller x hagain)
  | wait => simp
  | replace => simp
  | drop front y x _ _ hcaller => exact absurd hcaller (hsettled x)
  | take => simp

/-- Only what waited as the latest item is dropped, when a later one comes. -/
theorem dropped (ht : Turn s m s' fates fates') {i : ℕ} {y : ι}
    (hdropped : fates'[i]? = some (y, .dropped)) :
    fates[i]? = some (y, .dropped) ∨
      (fates[i]? = some (y, .waiting) ∧ ∃ z, Submits s m z) := by
  cases ht with
  | same => exact .inl hdropped
  | wait x =>
      have hbefore : i < fates.length := by grind
      exact .inl (by grind)
  | replace front y' x hmove =>
      have hbefore : i ≤ front.length := by grind
      obtain hfront | rfl := hbefore.lt_or_eq
      · exact .inl (by grind)
      · exact .inr ⟨by grind, x, .inl hmove⟩
  | drop front y' x hmove hfull =>
      have hbefore : i ≤ front.length := by grind
      obtain hfront | rfl := hbefore.lt_or_eq
      · exact .inl (by grind)
      · exact .inr ⟨by grind, x, .inr ⟨hmove, hfull⟩⟩
  | take front y' =>
      have hbefore : i < front.length := by grind
      exact .inl (by grind)

end Turn

end Moment

namespace Course

/-- What every move preserves. -/
structure Tracked (h : Handler σ ι ρ) (c : Course σ ι ρ) : Prop where
  conserved : c.moment.Conserved
  followed : Moment.Followed c.moment.view c.fates
  recorded : Moment.Recorded h c.moment.view
  /-- The latest item is lost only for one that is on its way to the free place. -/
  latest : (∀ x, c.moment.caller ≠ .again x) → ∀ e, c.fates.getLast? = some e → e.2 ≠ .dropped

theorem tracked_start (h : Handler σ ι ρ) (owner : σ) : (start owner).Tracked h :=
  ⟨Moment.conserved_atRest _, ⟨rfl, ⟨[], nofun, rfl⟩, rfl, rfl⟩,
    Moment.recorded_atRest h owner, nofun⟩

theorem Tracked.play {h : Handler σ ι ρ} {c : Course σ ι ρ} (hc : c.Tracked h) (m : Move σ ι) :
    (c.play h m).Tracked h := by
  have heffect := Moment.play_effect h hc.conserved m
  obtain ⟨hturn, hfollowed⟩ := heffect.turn hc.followed
  exact ⟨hc.conserved.play _ _, hfollowed, heffect.recorded hc.recorded, hturn.latest hc.latest⟩

theorem Tracked.playAll {h : Handler σ ι ρ} {c : Course σ ι ρ} (hc : c.Tracked h)
    (moves : List (Move σ ι)) : (c.playAll h moves).Tracked h := by
  induction moves generalizing c with
  | nil => exact hc
  | cons m rest ih => exact ih (hc.play m)

/-- A dropped item waited as the latest one until the submission of another came to the queue. -/
theorem Tracked.overtaken {h : Handler σ ι ρ} {c : Course σ ι ρ} (hc : c.Tracked h)
    (moves : List (Move σ ι)) {i : ℕ} {y : ι}
    (hdropped : (c.playAll h moves).fates[i]? = some (y, .dropped)) :
    c.fates[i]? = some (y, .dropped) ∨
      ∃ before m after, moves = before ++ m :: after ∧
        let found := c.playAll h before
        found.fates[i]? = some (y, .waiting) ∧ found.moment.worker.waiting = some y ∧
          i + 1 = found.moment.returned.length ∧ ∃ z, Moment.Submits found.moment m z := by
  induction moves generalizing c with
  | nil => exact .inl hdropped
  | cons m rest ih =>
      obtain hnow | ⟨before, m', after, rfl, hlater⟩ := ih (hc.play m) hdropped
      · obtain ⟨hturn, -⟩ := (Moment.play_effect h hc.conserved m).turn hc.followed
        obtain hbefore | ⟨hwaiting, hsubmits⟩ := hturn.dropped hnow
        · exact .inl hbefore
        · obtain ⟨hqueue, hlast⟩ := hc.followed.waiting_of_getElem? hwaiting
          exact .inr ⟨[], m, rest, rfl, hwaiting, hqueue, hlast, hsubmits⟩
      · exact .inr ⟨m :: before, m', after, rfl, hlater⟩

/-! ## The latest item -/

/-- What is known of the items and of the results at a moment. -/
structure LatestOnly (h : Handler σ ι ρ) (c : Course σ ι ρ) : Prop where
  items : c.fates.map (·.1) = c.moment.returned
  waiting : Fate.select .waiting c.fates = c.moment.worker.waiting.toList
  taken : Fate.select .taken c.fates = c.moment.view.taken
  dropped : (Fate.select .dropped c.fates).length = c.moment.worker.dropped
  taken_sublist : c.moment.view.taken.Sublist c.moment.returned
  handled_prefix : c.moment.worker.owner.2.handled.map (·.2) <+: c.moment.view.taken
  latest : (∀ x, c.moment.caller ≠ .again x) → ∀ x, c.moment.returned.getLast? = some x →
    c.moment.worker.waiting = some x ∨
      c.moment.worker.waiting = none ∧ c.moment.view.taken.getLast? = some x
  /-- Between the two, the place is free for the item that is on its way. -/
  room : ∀ x, c.moment.caller = .again x → c.moment.worker.waiting = none
  delivered : c.moment.worker.owner.2.delivered =
    c.moment.worker.owner.2.handled.filterMap h.result
  idle : c.moment.worker.idle = true → c.moment.worker.failure = none →
    (c.moment.worker.owner.2.handled.map (·.2)).getLast? = c.moment.returned.getLast?

namespace Tracked

variable {h : Handler σ ι ρ} {c : Course σ ι ρ}

theorem select_waiting (hc : c.Tracked h) :
    Fate.select .waiting c.fates = c.moment.worker.waiting.toList := by
  obtain ⟨front, hfront, hfates⟩ := hc.followed.waiting
  rw [hfates, Fate.select_append, hfront.select_waiting]
  change Fate.select _ (c.moment.worker.waiting.toList.map _) = _
  cases c.moment.worker.waiting <;> rfl

theorem latest_taken (hc : c.Tracked h) (hsettled : ∀ x, c.moment.caller ≠ .again x)
    (hwaiting : c.moment.worker.waiting = none) :
    c.moment.view.taken.getLast? = c.moment.returned.getLast? := by
  have hitems : c.fates.map (·.1) = c.moment.returned := hc.followed.items
  have hnone := hc.followed.settled hwaiting
  have hlatest := hc.latest hsettled
  rw [← hc.followed.taken, ← hitems]
  obtain hempty | ⟨front, ⟨x, f⟩, hfates⟩ := c.fates.eq_nil_or_concat
  · simp [hempty, Fate.select]
  · rw [hfates] at hnone hlatest ⊢
    have hf : f = .taken := by
      have hwaits : f ≠ .waiting := hnone (x, f) (by simp)
      have hdropped : f ≠ .dropped := hlatest (x, f) (by simp)
      cases f <;> simp_all
    simp [hf]

theorem latest_waiting (hc : c.Tracked h) {x : ι} (hwaiting : c.moment.worker.waiting = some x) :
    c.moment.returned.getLast? = some x := by
  have hitems : c.fates.map (·.1) = c.moment.returned := hc.followed.items
  obtain ⟨front, -, hfates⟩ := hc.followed.front_of_waiting hwaiting
  simp [← hitems, hfates]

theorem handled_of_idle (hc : c.Tracked h) (hidle : c.moment.worker.idle = true)
    (hfailure : c.moment.worker.failure = none) :
    (c.moment.worker.owner.2.handled.map (·.2)).getLast? = c.moment.returned.getLast? := by
  obtain ⟨hpending, hlocked⟩ := (hc.conserved.idle hfailure).mp hidle
  obtain ⟨hwaiting, hcurrent⟩ := hc.conserved.balanced.pending_eq_zero_iff.mp hpending
  have hsettled : ∀ x, c.moment.caller ≠ .again x := by
    intro x hagain
    simp [hagain] at hlocked
  rw [← hc.latest_taken hsettled hwaiting]
  simp [Moment.view, Moment.View.taken, hcurrent]

theorem latestOnly (hc : c.Tracked h) : c.LatestOnly h where
  items := hc.followed.items
  waiting := hc.select_waiting
  taken := hc.followed.taken
  dropped := hc.followed.dropped
  taken_sublist := by
    rw [← hc.followed.taken, ← show c.fates.map (·.1) = c.moment.returned from hc.followed.items]
    exact Fate.select_sublist .taken c.fates
  handled_prefix := List.prefix_append _ _
  latest := by
    intro hsettled x hlast
    cases hwaiting : c.moment.worker.waiting with
    | some y => exact .inl ((hc.latest_waiting hwaiting).symm.trans hlast)
    | none => exact .inr ⟨rfl, (hc.latest_taken hsettled hwaiting).trans hlast⟩
  room := hc.conserved.room
  delivered := hc.recorded.delivered
  idle := hc.handled_of_idle

end Tracked

/-! ## Runs of a worker for frames -/

/-- A run with the frames of a localizer: each is a cycle on the desk that the one before it left,
and a receiver that keeps notes is called with the reports of these cycles, in their order, and
changes nothing else. -/
structure ReportsFrames {υ α τ : Type} [Scalar α] [Numerics α] (setup : Setup υ α)
    (receiver : Option (ReportReceiver υ α τ)) (desk : FrameDesk υ α τ)
    (moves : List (Move (FrameDesk υ α τ) MarkerFrame)) : Prop where
  latestOnly :
    ((start desk).playAll (setup.frameHandler receiver) moves).LatestOnly
      (setup.frameHandler receiver)
  unrecorded :
    ((start desk).playAll (setup.frameHandler receiver) moves).moment.onOwner Prod.fst =
      (Moment.atRest desk).playAll (setup.frameHandler receiver) moves
  desks :
    let owner := ((start desk).playAll (setup.frameHandler receiver) moves).moment.worker.owner
    Passage (setup.deskAfter receiver) desk owner.2.handled (moves.flatMap Move.changes) owner.1
  reports :
    let owner := ((start desk).playAll (setup.frameHandler receiver) moves).moment.worker.owner
    owner.2.delivered = owner.2.handled.filterMap setup.reportOf
  received : ∀ receive, receiver = some receive →
    let frames := (start desk).playAll (setup.frameHandler receiver) moves
    let noted := (Moment.atRest (desk.withNotes [])).playAll
      (setup.frameHandler (some receive.noting)) (moves.map Move.noting)
    noted.onOwner FrameDesk.withoutNotes = frames.moment.onOwner Prod.fst ∧
      noted.worker.owner.received.2 = frames.moment.worker.owner.2.handled.filterMap setup.reportOf

theorem moment_start (h : Handler σ ι ρ) (owner : σ) (moves : List (Move σ ι)) :
    ((start owner).playAll h moves).moment = Moment.recordedRun h owner moves :=
  moment_playAll h (start owner) moves

theorem unrecorded (h : Handler σ ι ρ) (owner : σ) (moves : List (Move σ ι)) :
    ((start owner).playAll h moves).moment.onOwner Prod.fst =
      (Moment.atRest owner).playAll h moves := by
  rw [moment_start]
  exact Moment.recordedRun_onOwner h owner moves

theorem passage (h : Handler σ ι ρ) (owner : σ) (moves : List (Move σ ι)) :
    let last := ((start owner).playAll h moves).moment.worker.owner
    Passage h.after owner last.2.handled (moves.flatMap Move.changes) last.1 := by
  rw [moment_start]
  exact Moment.recordedRun_passage h owner moves

theorem reportsFrames {υ α τ : Type} [Scalar α] [Numerics α] (setup : Setup υ α)
    (receiver : Option (ReportReceiver υ α τ)) (desk : FrameDesk υ α τ)
    (moves : List (Move (FrameDesk υ α τ) MarkerFrame)) :
    ReportsFrames setup receiver desk moves := by
  have htracked := (tracked_start (setup.frameHandler receiver) desk).playAll moves
  constructor
  case latestOnly => exact htracked.latestOnly
  case unrecorded => exact unrecorded (setup.frameHandler receiver) desk moves
  case desks =>
    rw [← setup.after_frameHandler receiver]
    exact passage (setup.frameHandler receiver) desk moves
  case reports =>
    rw [← setup.result_frameHandler receiver]
    exact htracked.recorded.delivered
  case received =>
    rintro receive rfl
    have hnoted := Moment.recordedRun_noting setup receive desk moves
    constructor
    · rw [unrecorded]
      exact Moment.playAll_noting_withoutNotes setup receive desk moves
    · rw [← hnoted, moment_start]
      exact (Moment.recorded_recordedRun (setup.frameHandler (some receive)) desk moves).delivered

/-- The items of a run are handled in the order of their submissions, each in the state that the one
before it left, the latest one is never lost, and what is delivered are the results of those
handled.  For a worker that handles frames the receiver is called with the reports of their
cycles. -/
theorem run_latest_only (h : Handler σ ι ρ) (owner : σ) (moves : List (Move σ ι))
    {υ α τ : Type} [Scalar α] [Numerics α] (setup : Setup υ α)
    (receiver : Option (ReportReceiver υ α τ)) (desk : FrameDesk υ α τ)
    (frameMoves : List (Move (FrameDesk υ α τ) MarkerFrame)) :
    let c := (start owner).playAll h moves
    c.moment.onOwner Prod.fst = (Moment.atRest owner).playAll h moves ∧
      c.LatestOnly h ∧
      (∀ i y, c.fates[i]? = some (y, .dropped) →
        ∃ before m after, moves = before ++ m :: after ∧
          let found := (start owner).playAll h before
          found.fates[i]? = some (y, .waiting) ∧ found.moment.worker.waiting = some y ∧
            i + 1 = found.moment.returned.length ∧ ∃ z, Moment.Submits found.moment m z) ∧
      Passage h.after owner c.moment.worker.owner.2.handled (moves.flatMap Move.changes)
        c.moment.worker.owner.1 ∧
      ReportsFrames setup receiver desk frameMoves := by
  have hc := (tracked_start h owner).playAll moves
  refine ⟨unrecorded h owner moves, hc.latestOnly, fun i y hdropped => ?_,
    passage h owner moves, reportsFrames setup receiver desk frameMoves⟩
  exact ((tracked_start h owner).overtaken moves hdropped).resolve_left (by simp [start])

end Course
end Worker
end Fiducial
