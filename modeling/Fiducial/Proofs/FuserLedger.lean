import Fiducial.Proofs.FuserRun

/-!
# The ledger of a fuser

The counts of a fuser and what it has published are accounted for by the outcomes that it returned.
Each outcome adds one to one count, and the estimates among the outcomes are what was handed to the
publisher, in order.  A detection without an outcome adds nothing, with one exception: an estimate
that the publisher refuses has been counted as accepted before it was offered.
-/

namespace Fiducial

variable {σ α : Type}

def Verdict.estimate? : Verdict α → Option (Estimate α)
  | accepted e => some e
  | rejected _ => none

def Outcome.estimate? (o : Outcome α) : Option (Estimate α) := o.verdict.estimate?

def Outcome.reason? (o : Outcome α) : Option Reason :=
  match o.verdict with
  | .accepted _ => none
  | .rejected r => some r.reason

theorem Outcome.estimate_or_reason (o : Outcome α) :
    (∃ e, o.estimate? = some e ∧ o.reason? = none) ∨
      (∃ r, o.estimate? = none ∧ o.reason? = some r) := by
  obtain ⟨id, verdict⟩ := o
  cases verdict with
  | accepted e => exact .inl ⟨e, rfl, rfl⟩
  | rejected why => exact .inr ⟨why.reason, rfl, rfl⟩

/-! ## Counts -/

namespace Tally

@[simp] theorem accepted_accept (t : Tally) : t.accept.accepted = t.accepted + 1 := rfl

@[simp] theorem count_accept (t : Tally) (r : Reason) : t.accept.count r = t.count r := by
  cases r <;> rfl

@[simp] theorem accepted_reject (t : Tally) (r : Reason) :
    (t.reject r).accepted = t.accepted := by
  cases r <;> rfl

@[simp] theorem count_reject (t : Tally) (r r' : Reason) :
    (t.reject r).count r' = t.count r' + if r = r' then 1 else 0 := by
  cases r <;> cases r' <;> rfl

@[simp] theorem total_accept (t : Tally) : t.accept.total = t.total + 1 := by
  simp [total, entries, Reason.all, accept, count]
  omega

@[simp] theorem total_reject (t : Tally) (r : Reason) : (t.reject r).total = t.total + 1 := by
  cases r <;> simp [total, entries, Reason.all, reject, count] <;> omega

end Tally

/-- Hands on estimates in order, up to the first that is refused. -/
def Publisher.all (publish : Publisher σ α) : σ → List (Estimate α) → Except Fault σ
  | published, [] => .ok published
  | published, e :: es =>
    match publish published e with
    | .error f => .error f
    | .ok next => all publish next es

theorem Publisher.all_append {publish : Publisher σ α} {published next : σ}
    {es : List (Estimate α)} (hfirst : publish.all published es = .ok next)
    (es' : List (Estimate α)) :
    publish.all published (es ++ es') = publish.all next es' := by
  induction es generalizing published with
  | nil =>
      cases hfirst
      rfl
  | cons e es ih =>
      cases hpublish : publish published e with
      | error f => simp [all, hpublish] at hfirst
      | ok middle =>
          simp only [all, hpublish] at hfirst
          simp only [List.cons_append, all, hpublish]
          exact ih hfirst

namespace Fuser

def estimates (os : List (Outcome α)) : List (Estimate α) := os.filterMap (·.estimate?)

def countRejected (r : Reason) (os : List (Outcome α)) : Nat :=
  os.countP fun o => o.reason? = some r

theorem estimates_append (os os' : List (Outcome α)) :
    estimates (os ++ os') = estimates os ++ estimates os' := List.filterMap_append

theorem length_estimates (os : List (Outcome α)) :
    (estimates os).length = countAccepted os := by
  induction os with
  | nil => rfl
  | cons o os ih =>
      obtain ⟨id, verdict⟩ := o
      have hlength : (estimates os).length = countAccepted os := ih
      cases verdict <;>
        simpa [estimates, countAccepted, Outcome.estimate?, Verdict.estimate?,
          Verdict.isAccepted] using hlength

/-- What some outcomes add to the counts. -/
structure Adds (os : List (Outcome α)) (t t' : Tally) : Prop where
  accepted_eq : t'.accepted = t.accepted + countAccepted os
  count_eq : ∀ r, t'.count r = t.count r + countRejected r os
  total_eq : t'.total = t.total + os.length

theorem adds_countOutcome (o : Outcome α) (t : Tally) : Adds [o] t (countOutcome t o) := by
  obtain ⟨id, verdict⟩ := o
  cases verdict with
  | accepted e =>
      constructor <;>
        simp [countOutcome, countAccepted, countRejected, Outcome.reason?, Verdict.isAccepted]
  | rejected why =>
      constructor
      case accepted_eq => simp [countOutcome, countAccepted, Verdict.isAccepted]
      case count_eq =>
        intro r
        by_cases hr : why.reason = r <;>
          simp [countOutcome, countRejected, Outcome.reason?, hr]
      case total_eq => simp [countOutcome]

theorem Adds.append {os os' : List (Outcome α)} {t t' t'' : Tally} (hfirst : Adds os t t')
    (hnext : Adds os' t' t'') : Adds (os ++ os') t t'' := by
  constructor
  case accepted_eq =>
    have hcount : countAccepted (os ++ os') = countAccepted os + countAccepted os' :=
      List.countP_append
    rw [hnext.accepted_eq, hfirst.accepted_eq, hcount, Nat.add_assoc]
  case count_eq =>
    intro r
    have hcount : countRejected r (os ++ os') = countRejected r os + countRejected r os' :=
      List.countP_append
    rw [hnext.count_eq, hfirst.count_eq, hcount, Nat.add_assoc]
  case total_eq =>
    rw [hnext.total_eq, hfirst.total_eq, List.length_append, Nat.add_assoc]

theorem adds_foldl (os : List (Outcome α)) (t : Tally) :
    Adds os t (os.foldl countOutcome t) := by
  induction os generalizing t with
  | nil => exact ⟨rfl, fun r => rfl, rfl⟩
  | cons o os ih => exact (adds_countOutcome o t).append (ih (countOutcome t o))

/-! ## States -/

variable {publish : Publisher σ α} {state : State σ}

/-- The state of a fuser after detections that came to an end in any way. -/
structure Settled (publish : Publisher σ α) (os : List (Outcome α))
    (refused : Option (Estimate α)) (state state' : State σ) : Prop where
  published_eq : publish.all state.published (estimates os) = .ok state'.published
  tally_eq : state'.tally =
    match refused with
    | none => os.foldl countOutcome state.tally
    | some _ => (os.foldl countOutcome state.tally).accept

theorem Settled.append {os os' : List (Outcome α)} {r : Option (Estimate α)}
    {state' state'' : State σ} (hfirst : Settled publish os none state state')
    (hnext : Settled publish os' r state' state'') :
    Settled publish (os ++ os') r state state'' := by
  constructor
  case published_eq =>
    rw [estimates_append, Publisher.all_append hfirst.published_eq]
    exact hnext.published_eq
  case tally_eq =>
    have htally : state'.tally = os.foldl countOutcome state.tally := hfirst.tally_eq
    rw [List.foldl_append, ← htally]
    exact hnext.tally_eq

theorem settled_nil (publish : Publisher σ α) (state : State σ) :
    Settled publish [] none state state := by
  constructor
  case published_eq => rfl
  case tally_eq => rfl

theorem settled_refused (publish : Publisher σ α) (state : State σ) (e : Estimate α) :
    Settled publish [] (some e) state ⟨state.tally.accept, state.published⟩ := by
  constructor
  case published_eq => rfl
  case tally_eq => rfl

/-! ## One detection -/

variable [Scalar α] [Numerics α] {c : FuserConfig α} {s : Services α} {d : Detection α}

theorem process_settled {o : Outcome α}
    (hreturns : (process c s publish state d).result = .ok o) :
    Settled publish [o] none state (process c s publish state d).state := by
  constructor
  case published_eq =>
    rcases settle_returns hreturns with ⟨why, _, rfl, hstate⟩ | ⟨e, _, rfl, hpublish, _⟩
    · unfold process
      rw [hstate]
      rfl
    · have hone : estimates [(⟨d.id, .accepted e⟩ : Outcome α)] = [e] := rfl
      rw [hone]
      simp only [Publisher.all, hpublish]
      rfl
  case tally_eq => exact tally_of_process hreturns

/-! ## Several detections -/

/-- The outcomes of detections in order, up to the first that has none. -/
def returned (c : FuserConfig α) (s : Services α) (publish : Publisher σ α) :
    State σ → List (Detection α) → List (Outcome α)
  | _, [] => []
  | state, d :: ds =>
    match (process c s publish state d).result with
    | .error _ => []
    | .ok o => o :: returned c s publish (process c s publish state d).state ds

/-- The estimate that was counted but refused, if that is why the detections came to an end. -/
def refused (c : FuserConfig α) (s : Services α) (publish : Publisher σ α) :
    State σ → List (Detection α) → Option (Estimate α)
  | _, [] => none
  | state, d :: ds =>
    match (process c s publish state d).result with
    | .error _ => (Judgement.of c s d).verdict.toOption.bind Verdict.estimate?
    | .ok _ => refused c s publish (process c s publish state d).state ds

theorem returned_of_ok {ds : List (Detection α)} {os : List (Outcome α)}
    (hreturns : (processAll c s publish state ds).result = .ok os) :
    returned c s publish state ds = os ∧ refused c s publish state ds = none := by
  induction ds generalizing state os with
  | nil =>
      cases hreturns
      exact ⟨rfl, rfl⟩
  | cons d ds ih =>
      obtain ⟨o, rest, rfl, hfirst, hrest, _⟩ := processAll_cons hreturns
      obtain ⟨hreturned, hrefused⟩ := ih hrest
      simp only [returned, refused, hfirst, hreturned, hrefused]
      exact ⟨trivial, trivial⟩

theorem refused_of_verdict_error {f : Fault} (hverdict : (Judgement.of c s d).verdict = .error f) :
    (Judgement.of c s d).verdict.toOption.bind Verdict.estimate? = none := by
  rw [hverdict]
  rfl

theorem refused_of_accepted {e : Estimate α}
    (hverdict : (Judgement.of c s d).verdict = .ok (.accepted e)) :
    (Judgement.of c s d).verdict.toOption.bind Verdict.estimate? = some e := by
  rw [hverdict]
  rfl

theorem processAll_settled (c : FuserConfig α) (s : Services α) (publish : Publisher σ α)
    (state : State σ) (ds : List (Detection α)) :
    Settled publish (returned c s publish state ds) (refused c s publish state ds) state
      (processAll c s publish state ds).state := by
  -- the run goes on from the state in which a detection left the fuser, hence any state
  induction ds generalizing state with
  | nil => exact settled_nil publish state
  | cons d ds ih =>
      cases hfirst : (process c s publish state d).result with
      | ok o =>
          simp only [returned, refused, processAll, hfirst]
          exact (process_settled hfirst).append (ih _)
      | error f =>
          simp only [returned, refused, processAll, hfirst]
          -- without a verdict nothing is counted; an estimate is counted before it is refused
          rcases settle_fails hfirst with ⟨hverdict, hstate⟩ | ⟨e, hverdict, _, hstate⟩
          · rw [refused_of_verdict_error hverdict, process, hstate]
            exact settled_nil publish state
          · rw [refused_of_accepted hverdict, process, hstate]
            exact settled_refused publish state e

/-- Detections come to an end by a verdict that fails or by an estimate that is refused. -/
theorem processAll_fails {ds : List (Detection α)} {f : Fault}
    (hfails : (processAll c s publish state ds).result = .error f) :
    (refused c s publish state ds = none ∧
      ∃ d ∈ ds, (Judgement.of c s d).verdict = .error f) ∨
    (∃ e, refused c s publish state ds = some e ∧
      publish (processAll c s publish state ds).state.published e = .error f ∧
      ∃ d ∈ ds, (Judgement.of c s d).verdict = .ok (.accepted e)) := by
  induction ds generalizing state with
  | nil => cases hfails
  | cons d ds ih =>
      cases hfirst : (process c s publish state d).result with
      | ok o =>
          rw [processAll_of_cons hfirst] at hfails
          let rest := processAll c s publish (process c s publish state d).state ds
          have hrest : rest.result = .error f := by
            cases hresult : rest.result with
            | error g =>
                rw [hresult] at hfails
                exact hfails
            | ok os =>
                rw [hresult] at hfails
                cases hfails
          simp only [refused, processAll, hfirst]
          obtain ⟨hnone, d', hmem, hverdict⟩ | ⟨e, hsome, hpublish, d', hmem, hverdict⟩ := ih hrest
          · exact .inl ⟨hnone, d', List.mem_cons_of_mem d hmem, hverdict⟩
          · exact .inr ⟨e, hsome, hpublish, d', List.mem_cons_of_mem d hmem, hverdict⟩
      | error g =>
          have hsame : g = f := by
            simp only [processAll, hfirst] at hfails
            exact Except.error.inj hfails
          subst hsame
          simp only [refused, processAll, hfirst]
          rcases settle_fails hfirst with ⟨hverdict, _⟩ | ⟨e, hverdict, hpublish, hstate⟩
          · exact .inl ⟨refused_of_verdict_error hverdict, d, List.mem_cons_self, hverdict⟩
          · refine .inr ⟨e, refused_of_accepted hverdict, ?_, d, List.mem_cons_self, hverdict⟩
            rw [process, hstate]
            exact hpublish

/-- A publisher that never refuses leaves no estimate behind that was counted but not published. -/
theorem refused_eq_none (hpublish : publish.NeverRefuses) (state : State σ)
    (ds : List (Detection α)) : refused c s publish state ds = none := by
  cases hresult : (processAll c s publish state ds).result with
  | ok os => exact (returned_of_ok hresult).2
  | error f =>
      rcases processAll_fails hresult with ⟨hnone, _⟩ | ⟨e, _, hrefuses, _⟩
      · exact hnone
      · obtain ⟨next, hnext⟩ := hpublish (processAll c s publish state ds).state.published e
        rw [hnext] at hrefuses
        cases hrefuses

end Fuser
end Fiducial
