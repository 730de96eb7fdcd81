import Fiducial.Fuser.Basic
import Mathlib.Tactic

/-!
# Runs of the fuser

One step of a fuser turns the verdict about a detection into an outcome and keeps count of it.  The
outcome depends on the services and the detection alone: neither the counts nor what was published
before has a part in it.  So a run over several detections gives the outcome of each of them, and
its counts depend on the outcomes but not on their order.
-/

namespace Fiducial

def Publisher.NeverRefuses {σ α : Type} (publish : Publisher σ α) : Prop :=
  ∀ published e, ∃ next, publish published e = .ok next

namespace Fuser

variable {σ α : Type}

/-! ## Counts -/

def countOutcome (t : Tally) (o : Outcome α) : Tally :=
  match o.verdict with
  | .accepted _ => t.accept
  | .rejected why => t.reject why.reason

theorem accept_reject (t : Tally) (r : Reason) : t.accept.reject r = (t.reject r).accept := by
  cases r <;> rfl

theorem reject_reject (t : Tally) (r r' : Reason) :
    (t.reject r).reject r' = (t.reject r').reject r := by
  cases r <;> cases r' <;> rfl

theorem countOutcome_comm (t : Tally) (o o' : Outcome α) :
    countOutcome (countOutcome t o) o' = countOutcome (countOutcome t o') o := by
  unfold countOutcome
  cases o.verdict with
  | accepted e =>
      cases o'.verdict with
      | accepted e' => rfl
      | rejected why' => exact accept_reject t why'.reason
  | rejected why =>
      cases o'.verdict with
      | accepted e' => exact (accept_reject t why.reason).symm
      | rejected why' => exact reject_reject t why.reason why'.reason

theorem foldl_countOutcome_perm {os os' : List (Outcome α)} (hperm : os.Perm os') (t : Tally) :
    os.foldl countOutcome t = os'.foldl countOutcome t :=
  hperm.foldl_eq' (fun o _ o' _ t => countOutcome_comm t o o') t

/-! ## One step -/

variable [Scalar α] {publish : Publisher σ α} {state : State σ} {id : String}

/-- A step that returns has either counted a rejection or counted and published an estimate. -/
theorem settle_returns {j : Judgement α} {o : Outcome α}
    (hreturns : (settle publish state id j).result = .ok o) :
    (∃ why, j.verdict = .ok (.rejected why) ∧ o = ⟨id, .rejected why⟩ ∧
      (settle publish state id j).state = ⟨state.tally.reject why.reason, state.published⟩) ∨
    (∃ e, j.verdict = .ok (.accepted e) ∧ o = ⟨id, .accepted e⟩ ∧
      publish state.published e = .ok (settle publish state id j).state.published ∧
      (settle publish state id j).state.tally = state.tally.accept) := by
  unfold settle at hreturns ⊢
  cases hverdict : j.verdict with
  | error f =>
      rw [hverdict] at hreturns
      cases hreturns
  | ok v =>
      cases v with
      | rejected why =>
          rw [hverdict] at hreturns
          cases hreturns
          exact .inl ⟨why, rfl, rfl, rfl⟩
      | accepted e =>
          rw [hverdict] at hreturns
          simp only at hreturns ⊢
          cases hpublish : publish state.published e with
          | error f =>
              rw [hpublish] at hreturns
              cases hreturns
          | ok published =>
              rw [hpublish] at hreturns
              cases hreturns
              exact .inr ⟨e, rfl, rfl, hpublish, rfl⟩

theorem settle_queries (publish : Publisher σ α) (state : State σ) (id : String)
    (j : Judgement α) : (settle publish state id j).queries = j.queries := by
  unfold settle
  split
  · rfl
  · rfl
  · dsimp only
    split <;> rfl

/-- What a step leaves behind that gives no outcome. -/
theorem settle_fails {j : Judgement α} {f : Fault}
    (hfails : (settle publish state id j).result = .error f) :
    (j.verdict = .error f ∧ (settle publish state id j).state = state) ∨
    (∃ e, j.verdict = .ok (.accepted e) ∧ publish state.published e = .error f ∧
      (settle publish state id j).state = ⟨state.tally.accept, state.published⟩) := by
  unfold settle at hfails ⊢
  cases hverdict : j.verdict with
  | error g =>
      rw [hverdict] at hfails
      cases hfails
      exact .inl ⟨rfl, rfl⟩
  | ok v =>
      rw [hverdict] at hfails
      cases v with
      | rejected why => cases hfails
      | accepted e =>
          simp only at hfails ⊢
          cases hpublish : publish state.published e with
          | error g =>
              rw [hpublish] at hfails
              cases hfails
              exact .inr ⟨e, rfl, hpublish, rfl⟩
          | ok published =>
              rw [hpublish] at hfails
              cases hfails

theorem settle_of_verdict_error {j : Judgement α} {f : Fault} (hverdict : j.verdict = .error f) :
    (settle publish state id j).result = .error f := by
  unfold settle
  rw [hverdict]

theorem settle_error_iff (hpublish : publish.NeverRefuses) (state : State σ) (id : String)
    (j : Judgement α) (f : Fault) :
    (settle publish state id j).result = .error f ↔ j.verdict = .error f := by
  constructor
  · intro hfails
    rcases settle_fails hfails with ⟨hverdict, _⟩ | ⟨e, _, hrefuses, _⟩
    · exact hverdict
    · obtain ⟨next, hnext⟩ := hpublish state.published e
      rw [hnext] at hrefuses
      cases hrefuses
  · exact settle_of_verdict_error

theorem accepted_of_settle {j : Judgement α} {e : Estimate α}
    (haccepted : (settle publish state id j).result = .ok ⟨id, .accepted e⟩) :
    j.verdict = .ok (.accepted e) ∧
      publish state.published e = .ok (settle publish state id j).state.published := by
  rcases settle_returns haccepted with ⟨why, _, hsame, _⟩ | ⟨e', hverdict, hsame, hpublish, _⟩
  · cases hsame
  · cases hsame
    exact ⟨hverdict, hpublish⟩

theorem settle_of_accepted {j : Judgement α} {e : Estimate α} {next : σ}
    (hverdict : j.verdict = .ok (.accepted e)) (hpublish : publish state.published e = .ok next) :
    settle publish state id j =
      ⟨.ok ⟨id, .accepted e⟩, ⟨state.tally.accept, next⟩, j.queries, j.log⟩ := by
  simp only [settle, hverdict, hpublish]

/-- A rejection is returned exactly if it is the verdict. -/
theorem settle_rejected_iff {j : Judgement α} {why : Rejection α} :
    (settle publish state id j).result = .ok ⟨id, .rejected why⟩ ↔
      j.verdict = .ok (.rejected why) := by
  constructor
  · intro hrejected
    rcases settle_returns hrejected with ⟨_, hverdict, hsame, _⟩ | ⟨e, _, hsame, _⟩
    · cases hsame
      exact hverdict
    · cases hsame
  · intro hverdict
    simp only [settle, hverdict]

variable [Numerics α]

/-- The outcome of a detection, from the services alone. -/
def outcomeOf (c : FuserConfig α) (s : Services α) (d : Detection α) :
    Except Fault (Outcome α) :=
  (Judgement.of c s d).verdict.map fun v => ⟨d.id, v⟩

section Steps

variable {c : FuserConfig α} {s : Services α} {d : Detection α} {o : Outcome α}

theorem id_of_outcomeOf (houtcome : outcomeOf c s d = .ok o) : o.id = d.id := by
  unfold outcomeOf at houtcome
  cases hverdict : (Judgement.of c s d).verdict with
  | error f =>
      rw [hverdict] at houtcome
      cases houtcome
  | ok v =>
      rw [hverdict] at houtcome
      cases houtcome
      rfl

theorem outcomeOf_of_process (hreturns : (process c s publish state d).result = .ok o) :
    outcomeOf c s d = .ok o := by
  unfold outcomeOf
  rcases settle_returns hreturns with ⟨why, hverdict, rfl, _⟩ | ⟨e, hverdict, rfl, _⟩
  · rw [hverdict]
    rfl
  · rw [hverdict]
    rfl

theorem tally_of_process (hreturns : (process c s publish state d).result = .ok o) :
    (process c s publish state d).state.tally = countOutcome state.tally o := by
  rcases settle_returns hreturns with ⟨why, _, rfl, hstate⟩ | ⟨e, _, rfl, _, htally⟩
  · unfold process
    rw [hstate]
    rfl
  · exact htally

theorem process_of_outcomeOf (hpublish : publish.NeverRefuses) (state : State σ)
    (houtcome : outcomeOf c s d = .ok o) : (process c s publish state d).result = .ok o := by
  cases hresult : (process c s publish state d).result with
  | ok o' =>
      rw [← outcomeOf_of_process hresult]
      exact houtcome
  | error f =>
      have hverdict := (settle_error_iff hpublish state d.id _ f).mp hresult
      unfold outcomeOf at houtcome
      rw [hverdict] at houtcome
      cases houtcome

end Steps

/-! ## Several steps -/

section Runs

variable {c : FuserConfig α} {s : Services α}

theorem processAll_cons {d : Detection α} {ds : List (Detection α)} {os : List (Outcome α)}
    (hreturns : (processAll c s publish state (d :: ds)).result = .ok os) :
    ∃ o rest, os = o :: rest ∧
      (process c s publish state d).result = .ok o ∧
      (processAll c s publish (process c s publish state d).state ds).result = .ok rest ∧
      (processAll c s publish state (d :: ds)).state =
        (processAll c s publish (process c s publish state d).state ds).state := by
  simp only [processAll] at hreturns ⊢
  cases hfirst : (process c s publish state d).result with
  | error f =>
      rw [hfirst] at hreturns
      cases hreturns
  | ok o =>
      rw [hfirst] at hreturns
      simp only at hreturns ⊢
      cases hrest : (processAll c s publish (process c s publish state d).state ds).result with
      | error f =>
          rw [hrest] at hreturns
          cases hreturns
      | ok rest =>
          rw [hrest] at hreturns
          cases hreturns
          exact ⟨o, rest, rfl, rfl, rfl, trivial⟩

theorem processAll_of_cons {d : Detection α} {ds : List (Detection α)} {o : Outcome α}
    (hfirst : (process c s publish state d).result = .ok o) :
    (processAll c s publish state (d :: ds)).result =
      (processAll c s publish (process c s publish state d).state ds).result.map (o :: ·) := by
  simp only [processAll, hfirst]

theorem processAll_error_iff_first (state : State σ) (ds : List (Detection α)) (f : Fault) :
    (processAll c s publish state ds).result = .error f ↔
      ∃ before d after os, ds = before ++ d :: after ∧
        (processAll c s publish state before).result = .ok os ∧
        (process c s publish (processAll c s publish state before).state d).result =
          .error f := by
  induction ds generalizing state with
  | nil =>
      constructor
      · rintro ⟨⟩
      · rintro ⟨before, d, after, os, hsplit, _⟩
        simp at hsplit
  | cons d ds ih =>
      cases hfirst : (process c s publish state d).result with
      | error g =>
          have hrun : (processAll c s publish state (d :: ds)).result = .error g := by
            simp only [processAll, hfirst]
          rw [hrun]
          constructor
          · rintro ⟨⟩
            exact ⟨[], d, ds, [], rfl, rfl, hfirst⟩
          · rintro ⟨before, d', after, os, hsplit, hbefore, hfails⟩
            cases before with
            | nil =>
                cases hsplit
                cases hfirst.symm.trans hfails
                rfl
            | cons e before =>
                cases hsplit
                obtain ⟨o, _, _, ho, _⟩ := processAll_cons hbefore
                rw [hfirst] at ho
                cases ho
      | ok o =>
          have hmap : (processAll c s publish state (d :: ds)).result = .error f ↔
              (processAll c s publish (process c s publish state d).state ds).result =
                .error f := by
            rw [processAll_of_cons hfirst]
            cases (processAll c s publish (process c s publish state d).state ds).result <;>
              simp [Except.map]
          rw [hmap, ih]
          constructor
          · rintro ⟨before, d', after, os, rfl, hbefore, hfails⟩
            refine ⟨d :: before, d', after, o :: os, rfl, ?_, ?_⟩
            · rw [processAll_of_cons hfirst, hbefore]
              rfl
            · simpa only [processAll, hfirst] using hfails
          · rintro ⟨before, d', after, os, hsplit, hbefore, hfails⟩
            cases before with
            | nil =>
                cases hsplit
                have hok : Except.ok o = Except.error f := hfirst.symm.trans hfails
                cases hok
            | cons e before =>
                cases hsplit
                obtain ⟨_, rest, _, _, hrest, hstate⟩ := processAll_cons hbefore
                rw [hstate] at hfails
                exact ⟨before, d', after, rest, rfl, hrest, hfails⟩

theorem outcomes_of_processAll {ds : List (Detection α)} {os : List (Outcome α)}
    (hreturns : (processAll c s publish state ds).result = .ok os) :
    ds.map (outcomeOf c s) = os.map .ok := by
  induction ds generalizing state os with
  | nil =>
      cases hreturns
      rfl
  | cons d ds ih =>
      obtain ⟨o, rest, rfl, hfirst, hrest, _⟩ := processAll_cons hreturns
      simp only [List.map_cons]
      rw [outcomeOf_of_process hfirst, ih hrest]

theorem length_of_processAll {ds : List (Detection α)} {os : List (Outcome α)}
    (hreturns : (processAll c s publish state ds).result = .ok os) : os.length = ds.length := by
  have hlength := congrArg List.length (outcomes_of_processAll hreturns)
  rw [List.length_map, List.length_map] at hlength
  exact hlength.symm

theorem tally_of_processAll {ds : List (Detection α)} {os : List (Outcome α)}
    (hreturns : (processAll c s publish state ds).result = .ok os) :
    (processAll c s publish state ds).state.tally = os.foldl countOutcome state.tally := by
  induction ds generalizing state os with
  | nil =>
      cases hreturns
      rfl
  | cons d ds ih =>
      obtain ⟨o, rest, rfl, hfirst, hrest, hstate⟩ := processAll_cons hreturns
      rw [hstate, ih hrest, tally_of_process hfirst]
      rfl

/-- With a publisher that never refuses, a run returns as soon as every detection has an outcome. -/
theorem processAll_of_outcomes (hpublish : publish.NeverRefuses) (state : State σ)
    {ds : List (Detection α)} {os : List (Outcome α)}
    (houtcomes : ds.map (outcomeOf c s) = os.map .ok) :
    (processAll c s publish state ds).result = .ok os := by
  induction ds generalizing state os with
  | nil =>
      have hnil : os = [] := by simpa using houtcomes.symm
      rw [hnil]
      rfl
  | cons d ds ih =>
      cases os with
      | nil => cases houtcomes
      | cons o rest =>
          simp only [List.map_cons, List.cons.injEq] at houtcomes
          have hfirst := process_of_outcomeOf hpublish state houtcomes.1
          have hrest := ih (process c s publish state d).state houtcomes.2
          simp only [processAll, hfirst, hrest]
          rfl

end Runs

end Fuser
end Fiducial
