import Fiducial.Proofs.FuserRun
import Fiducial.Proofs.OriginScene

/-!
# A localizer is a function of its snapshots

Whatever calls a localizer has seen, the report of its next cycle depends on three things: the last
map that was built without a fault, the last reference pose and the first calibration.  A localizer
is followed call by call by these snapshots alone; its counts, the versions of its cells and what
it has published have no part in a report.  So a new localizer that is only told the snapshots gives
the same report.
-/

namespace Fiducial

def Setup.withPublisher {σ τ α : Type} (s : Setup σ α) (publish : Publisher τ α) : Setup τ α :=
  ⟨s.name, s.fuser, s.frames, publish, s.markerSize, s.maxError, s.solver⟩

namespace Localizer

/-! ## Calls -/

inductive Call (α : Type) where
  | landmarks (given : List (Except Fault (Landmark α)))
  | reference (r : ReferencePose α)
  | camera (c : Camera)
  | detections (stamp : Value) (ds : List (Detection α)) (detected : Option Value)
  | frame (f : MarkerFrame)

section Calls

variable {σ α : Type} [Scalar α] [Numerics α]

/-- The localizer after a call, whether or not the call returns. -/
def after (s : Setup σ α) (l : Localizer σ α) : Call α → Localizer σ α
  | .landmarks given => (l.setLandmarks given).state
  | .reference r => l.setReference r
  | .camera c => (l.setCamera c).state
  | .detections stamp ds detected => (process s l stamp ds detected).state
  | .frame f => (processFrame s l f).state

def afterAll (s : Setup σ α) (l : Localizer σ α) (calls : List (Call α)) : Localizer σ α :=
  calls.foldl (after s) l

/-- The report of a call; a call that is no cycle reports nothing. -/
def report (s : Setup σ α) (l : Localizer σ α) : Call α → Except Fault (Option (Report α))
  | .detections stamp ds detected => (process s l stamp ds detected).result.map some
  | .frame f => (processFrame s l f).result
  | _ => .ok none

end Calls

/-! ## Snapshots -/

structure Snapshot (α : Type) where
  landmarks : Registry α
  reference : Option (ReferencePose α)
  camera : Option Camera

section Snapshots

variable {σ τ α : Type}

def snapshot (l : Localizer σ α) : Snapshot α :=
  ⟨l.landmarks, l.reference.value, l.camera.value⟩

def Snapshot.after (p : Snapshot α) : Call α → Snapshot α
  | .landmarks given =>
    match Registry.collect given with
    | .ok r => { p with landmarks := r }
    | .error _ => p
  | .reference r => { p with reference := some r }
  | .camera c => { p with camera := p.camera <|> some c }
  | .detections .. | .frame _ => p

def Snapshot.initial : Snapshot α := ⟨Registry.empty, none, none⟩

theorem snapshot_new (published : σ) : snapshot (new published : Localizer σ α) = .initial := rfl

variable [Scalar α] [Numerics α]

theorem snapshot_processFrame (s : Setup σ α) (l : Localizer σ α) (f : MarkerFrame) :
    snapshot (processFrame s l f).state = snapshot l := by
  unfold processFrame
  split <;> rfl

theorem snapshot_after (s : Setup σ α) (l : Localizer σ α) (call : Call α) :
    snapshot (after s l call) = (snapshot l).after call := by
  cases call with
  | landmarks given =>
      simp only [after, setLandmarks, Snapshot.after]
      cases Registry.collect given <;> rfl
  | reference r => rfl
  | camera c =>
      simp only [after, setCamera, Cell.setOnce, Snapshot.after, snapshot]
      cases hcamera : l.camera.value <;> simp [Cell.set, hcamera, landmarks]
  | detections stamp ds detected => rfl
  | frame f => exact snapshot_processFrame s l f

theorem snapshot_afterAll (s : Setup σ α) (l : Localizer σ α) (calls : List (Call α)) :
    snapshot (afterAll s l calls) = calls.foldl Snapshot.after (snapshot l) := by
  induction calls generalizing l with
  | nil => rfl
  | cons call calls ih =>
      calc
        snapshot (afterAll s l (call :: calls)) = snapshot (afterAll s (after s l call) calls) :=
          rfl
        _ = calls.foldl Snapshot.after (snapshot (after s l call)) := ih _
        _ = (call :: calls).foldl Snapshot.after (snapshot l) := by
          rw [snapshot_after, List.foldl_cons]

end Snapshots

/-! ## The essential calls -/

section Essential

variable {α : Type}

/-- The landmarks of a call that replaces the map without a fault. -/
def Call.map? : Call α → Option (List (Except Fault (Landmark α)))
  | .landmarks given => if (Registry.collect given).isOk then some given else none
  | _ => none

def Call.reference? : Call α → Option (ReferencePose α)
  | .reference r => some r
  | _ => none

def Call.camera? : Call α → Option Camera
  | .camera c => some c
  | _ => none

def lastMap (calls : List (Call α)) : Option (List (Except Fault (Landmark α))) :=
  (calls.filterMap Call.map?).getLast?

def lastReference (calls : List (Call α)) : Option (ReferencePose α) :=
  (calls.filterMap Call.reference?).getLast?

def firstCamera (calls : List (Call α)) : Option Camera := (calls.filterMap Call.camera?).head?

/-- At most three calls that say all that matters of some calls. -/
def essential (calls : List (Call α)) : List (Call α) :=
  (lastMap calls).toList.map .landmarks ++ (lastReference calls).toList.map .reference ++
    (firstCamera calls).toList.map .camera

/-- The map built from the landmarks of the last call that replaced it. -/
def mapOf (given : Option (List (Except Fault (Landmark α)))) : Registry α :=
  match given with
  | none => Registry.empty
  | some given => (Registry.collect given).toOption.getD Registry.empty

def snapshotOf (calls : List (Call α)) : Snapshot α :=
  ⟨mapOf (lastMap calls), lastReference calls, firstCamera calls⟩

theorem lastMap_append (calls : List (Call α)) (call : Call α) :
    lastMap (calls ++ [call]) = call.map?.or (lastMap calls) := by
  unfold lastMap
  cases hmap : call.map? <;> simp [hmap]

theorem lastReference_append (calls : List (Call α)) (call : Call α) :
    lastReference (calls ++ [call]) = call.reference?.or (lastReference calls) := by
  unfold lastReference
  cases hreference : call.reference? <;> simp [hreference]

theorem firstCamera_append (calls : List (Call α)) (call : Call α) :
    firstCamera (calls ++ [call]) = (firstCamera calls).or call.camera? := by
  unfold firstCamera
  cases hcamera : call.camera? <;> simp [hcamera]

theorem mapOf_landmarks (given : List (Except Fault (Landmark α)))
    (earlier : Option (List (Except Fault (Landmark α)))) :
    mapOf ((Call.landmarks given).map?.or earlier) =
      match Registry.collect given with
      | .ok r => r
      | .error _ => mapOf earlier := by
  cases hcollect : Registry.collect given with
  | error f => simp [Call.map?, hcollect, Except.isOk, Except.toBool]
  | ok r => simp [Call.map?, hcollect, Except.isOk, Except.toBool, mapOf, Except.toOption]

/-- One more call changes the snapshots that the calls leave behind as it changes any. -/
theorem snapshotOf_append (calls : List (Call α)) (call : Call α) :
    snapshotOf (calls ++ [call]) = (snapshotOf calls).after call := by
  unfold snapshotOf
  rw [lastMap_append, lastReference_append, firstCamera_append]
  cases call with
  | landmarks given =>
      rw [mapOf_landmarks]
      simp only [Snapshot.after]
      cases Registry.collect given <;> simp [Call.reference?, Call.camera?]
  | reference r => simp [Snapshot.after, Call.map?, Call.reference?, Call.camera?]
  | camera c => simp [Snapshot.after, Call.map?, Call.reference?, Call.camera?]
  | detections stamp ds detected =>
      simp [Snapshot.after, Call.map?, Call.reference?, Call.camera?]
  | frame f => simp [Snapshot.after, Call.map?, Call.reference?, Call.camera?]

theorem foldl_after_initial (calls : List (Call α)) :
    calls.foldl Snapshot.after .initial = snapshotOf calls := by
  induction calls using List.reverseRecOn with
  | nil => rfl
  | append_singleton calls call ih => rw [List.foldl_concat, ih, snapshotOf_append]

theorem collect_of_lastMap {calls : List (Call α)} {given : List (Except Fault (Landmark α))}
    (hlast : lastMap calls = some given) : ∃ r, Registry.collect given = .ok r := by
  have hmem : given ∈ calls.filterMap Call.map? := List.mem_of_getLast? hlast
  obtain ⟨call, _, hcall⟩ := List.mem_filterMap.mp hmem
  cases call with
  | landmarks given' =>
      cases hcollect : Registry.collect given' with
      | error f => simp [Call.map?, hcollect, Except.isOk, Except.toBool] at hcall
      | ok r =>
          simp only [Call.map?, hcollect] at hcall
          cases hcall
          exact ⟨r, hcollect⟩
  | _ => cases hcall

theorem foldl_after_essential (calls : List (Call α)) :
    (essential calls).foldl Snapshot.after .initial = snapshotOf calls := by
  have hmap : ((lastMap calls).toList.map Call.landmarks).foldl Snapshot.after .initial =
      (⟨mapOf (lastMap calls), none, none⟩ : Snapshot α) := by
    cases hlast : lastMap calls with
    | none => rfl
    | some given =>
        obtain ⟨r, hr⟩ := collect_of_lastMap hlast
        simp [Snapshot.after, Snapshot.initial, mapOf, hr, Except.toOption]
  unfold essential
  rw [List.foldl_append, List.foldl_append, hmap]
  unfold snapshotOf
  cases lastReference calls <;> cases firstCamera calls <;> rfl

end Essential

/-! ## Lists of results -/

section Results

variable {β γ : Type} {n : Nat} {outcome : β → Except Fault γ} {xs : Fin n → β} {found : List γ}

theorem map_ok_injective {ys zs : List γ}
    (hmap : ys.map (Except.ok : γ → Except Fault γ) = zs.map .ok) : ys = zs := by
  have hinjective : Function.Injective (Except.ok : γ → Except Fault γ) :=
    fun _ _ heq => Except.ok.inj heq
  exact hinjective.list_map hmap

theorem eq_ofFn_of_results {ys : Fin n → γ} (hall : ∀ i, outcome (xs i) = .ok (ys i))
    (hfound : (List.ofFn xs).map outcome = found.map .ok) : found = List.ofFn ys := by
  have hmap : (List.ofFn xs).map outcome = (List.ofFn ys).map .ok := by
    rw [List.map_ofFn, List.map_ofFn]
    congr 1
    funext i
    exact hall i
  exact map_ok_injective (hfound.symm.trans hmap)

theorem exists_results (hfound : (List.ofFn xs).map outcome = found.map .ok) :
    ∃ ys : Fin n → γ, ∀ i, outcome (xs i) = .ok (ys i) := by
  have hone : ∀ i, ∃ y, outcome (xs i) = .ok y := by
    intro i
    have hmem : outcome (xs i) ∈ found.map Except.ok := by
      rw [← hfound]
      exact List.mem_map_of_mem (List.mem_ofFn.mpr ⟨i, rfl⟩)
    obtain ⟨y, _, hy⟩ := List.mem_map.mp hmem
    exact ⟨y, hy.symm⟩
  exact ⟨fun i => (hone i).choose, fun i => (hone i).choose_spec⟩

end Results

/-! ## Reports -/

section Reports

variable {σ τ α : Type}

def Snapshot.services (p : Snapshot α) (frames : String → String → FrameReply α) : Services α :=
  ⟨p.landmarks.lookup, frames, p.reference⟩

theorem services_snapshot (s : Setup σ α) (l : Localizer σ α) :
    services s l = (snapshot l).services s.frames := rfl

variable [Scalar α] [Numerics α]

theorem process_returns {s : Setup σ α} {l : Localizer σ α} {stamp : Value}
    {ds : List (Detection α)} {detected : Option Value} {r : Report α}
    (hreturns : (process s l stamp ds detected).result = .ok r) :
    ∃ os, (Fuser.processAll s.fuser (services s l) s.publish l.fuser ds).result = .ok os ∧
      reportOf s.name stamp (detected.getD (.int ds.length)) os = .ok r := by
  simp only [process] at hreturns
  cases hall : (Fuser.processAll s.fuser (services s l) s.publish l.fuser ds).result with
  | error f =>
      rw [hall] at hreturns
      cases hreturns
  | ok os =>
      rw [hall] at hreturns
      exact ⟨os, rfl, hreturns⟩

/-- A cycle that returns gives the same report at every localizer with the same snapshots, if it
returns there too. -/
theorem process_agree {s : Setup σ α} {l : Localizer σ α} {l' : Localizer τ α}
    {publish : Publisher τ α} (hsame : snapshot l = snapshot l') {stamp : Value}
    {ds : List (Detection α)} {detected : Option Value} {r r' : Report α}
    (hreturns : (process s l stamp ds detected).result = .ok r)
    (hreturns' : (process (s.withPublisher publish) l' stamp ds detected).result = .ok r') :
    r' = r := by
  obtain ⟨os, hall, hreport⟩ := process_returns hreturns
  obtain ⟨os', hall', hreport'⟩ := process_returns hreturns'
  have houtcomes := Fuser.outcomes_of_processAll hall
  have houtcomes' := Fuser.outcomes_of_processAll hall'
  rw [services_snapshot, hsame] at houtcomes
  have hos : os' = os := map_ok_injective (houtcomes'.symm.trans houtcomes)
  rw [hos] at hreport'
  exact Except.ok.inj (hreport'.symm.trans hreport)

/-- With a publisher that never refuses, it does return there. -/
theorem process_of_snapshot {s : Setup σ α} {l : Localizer σ α} {l' : Localizer τ α}
    {publish : Publisher τ α} (hpublish : publish.NeverRefuses)
    (hsame : snapshot l = snapshot l') {stamp : Value} {ds : List (Detection α)}
    {detected : Option Value} {r : Report α}
    (hreturns : (process s l stamp ds detected).result = .ok r) :
    (process (s.withPublisher publish) l' stamp ds detected).result = .ok r := by
  obtain ⟨os, hall, hreport⟩ := process_returns hreturns
  have houtcomes := Fuser.outcomes_of_processAll hall
  rw [services_snapshot, hsame] at houtcomes
  have hall' :
      (Fuser.processAll s.fuser (services (s.withPublisher publish) l') publish l'.fuser
        ds).result = .ok os :=
    Fuser.processAll_of_outcomes hpublish _ houtcomes
  simp only [process]
  change (Fuser.processAll s.fuser (services (s.withPublisher publish) l') publish l'.fuser
    ds).result >>= reportOf s.name stamp (detected.getD (.int ds.length)) = .ok r
  rw [hall']
  exact hreport

/-- Setups that locate markers in the same way. -/
structure SameMarkers (s : Setup σ α) (s' : Setup τ α) : Prop where
  markerSize : s'.markerSize = s.markerSize
  maxError : s'.maxError = s.maxError
  solver : s'.solver = s.solver

omit [Numerics α] in
theorem detections_congr {s : Setup σ α} {s' : Setup τ α} {l : Localizer σ α}
    {l' : Localizer τ α} (hmarkers : SameMarkers s s') (hcamera : l'.camera.value = l.camera.value)
    (f : MarkerFrame) : detections s' l' f = detections s l f := by
  have hdetect : ∀ camera m, detect s' camera f m = detect s camera f m := by
    intro camera m
    unfold detect
    rw [hmarkers.markerSize, hmarkers.maxError, hmarkers.solver]
  have hall : ∀ camera ms, detectAll s' camera f ms = detectAll s camera f ms := by
    intro camera ms
    induction ms with
    | nil => rfl
    | cons m ms ih => simp only [detectAll, hdetect, ih]
  unfold detections
  rw [hcamera]
  cases l.camera.value with
  | none => rfl
  | some camera => simp only [hall]

omit [Numerics α] in
theorem detections_of_snapshot (s : Setup σ α) {l : Localizer σ α} {l' : Localizer τ α}
    (publish : Publisher τ α) (hsame : snapshot l = snapshot l') (f : MarkerFrame) :
    detections (s.withPublisher publish) l' f = detections s l f := by
  have hmarkers : SameMarkers s (s.withPublisher publish) := ⟨rfl, rfl, rfl⟩
  have hcamera : l'.camera.value = l.camera.value := (congrArg Snapshot.camera hsame).symm
  exact detections_congr hmarkers hcamera f

/-- The cycle that a call starts: its stamp, its detections and how many markers were detected. -/
def cycleOf (s : Setup σ α) (l : Localizer σ α) :
    Call α → Except Fault (Option (Value × List (Detection α) × Option Value))
  | .detections stamp ds detected => .ok (some (stamp, ds, detected))
  | .frame f =>
    (detections s l f).1.map (·.map fun ds => (f.stamp, ds, some (.int f.markers.length)))
  | _ => .ok none

def reportCycle (s : Setup σ α) (l : Localizer σ α) :
    Option (Value × List (Detection α) × Option Value) → Except Fault (Option (Report α))
  | none => .ok none
  | some (stamp, ds, detected) => (process s l stamp ds detected).result.map some

theorem report_eq_reportCycle (s : Setup σ α) (l : Localizer σ α) (call : Call α) :
    report s l call = cycleOf s l call >>= reportCycle s l := by
  cases call with
  | frame f =>
      simp only [report, cycleOf, processFrame]
      cases detections s l f with
      | mk found log =>
          cases found with
          | error g => rfl
          | ok ds => cases ds <;> rfl
  | _ => rfl

omit [Numerics α] in
theorem cycleOf_of_snapshot (s : Setup σ α) {l : Localizer σ α} {l' : Localizer τ α}
    (publish : Publisher τ α) (hsame : snapshot l = snapshot l') (call : Call α) :
    cycleOf (s.withPublisher publish) l' call = cycleOf s l call := by
  cases call with
  | frame f =>
      simp only [cycleOf]
      rw [detections_of_snapshot s publish hsame f]
  | _ => rfl

theorem reportCycle_some {s : Setup σ α} {l : Localizer σ α} {stamp : Value}
    {ds : List (Detection α)} {detected : Option Value} {found : Option (Report α)}
    (hreturns : reportCycle s l (some (stamp, ds, detected)) = .ok found) :
    ∃ r, found = some r ∧ (process s l stamp ds detected).result = .ok r := by
  simp only [reportCycle] at hreturns
  cases hprocess : (process s l stamp ds detected).result with
  | error f =>
      rw [hprocess] at hreturns
      cases hreturns
  | ok r =>
      rw [hprocess] at hreturns
      cases hreturns
      exact ⟨r, rfl, rfl⟩

section SameSnapshots

variable {s : Setup σ α} {l : Localizer σ α} {l' : Localizer τ α} {publish : Publisher τ α}
variable {call : Call α} {r r' : Option (Report α)}

theorem report_agree (hsame : snapshot l = snapshot l') (hreturns : report s l call = .ok r)
    (hreturns' : report (s.withPublisher publish) l' call = .ok r') : r' = r := by
  rw [report_eq_reportCycle] at hreturns hreturns'
  rw [cycleOf_of_snapshot s publish hsame] at hreturns'
  cases hcycle : cycleOf s l call with
  | error f =>
      rw [hcycle] at hreturns
      cases hreturns
  | ok cycle =>
      rw [hcycle] at hreturns hreturns'
      cases cycle with
      | none =>
          cases hreturns
          cases hreturns'
          rfl
      | some given =>
          obtain ⟨stamp, ds, detected⟩ := given
          obtain ⟨q, rfl, hprocess⟩ := reportCycle_some hreturns
          obtain ⟨q', rfl, hprocess'⟩ := reportCycle_some hreturns'
          rw [process_agree hsame hprocess hprocess']

theorem report_of_snapshot (hpublish : publish.NeverRefuses) (hsame : snapshot l = snapshot l')
    (hreturns : report s l call = .ok r) : report (s.withPublisher publish) l' call = .ok r := by
  rw [report_eq_reportCycle] at hreturns ⊢
  rw [cycleOf_of_snapshot s publish hsame]
  cases hcycle : cycleOf s l call with
  | error f =>
      rw [hcycle] at hreturns
      cases hreturns
  | ok cycle =>
      rw [hcycle] at hreturns
      cases cycle with
      | none => exact hreturns
      | some given =>
          obtain ⟨stamp, ds, detected⟩ := given
          obtain ⟨q, rfl, hprocess⟩ := reportCycle_some hreturns
          have hprocess' := process_of_snapshot hpublish hsame hprocess
          exact congrArg (Except.map some) hprocess'

end SameSnapshots

/-! ## The order of the detections -/

omit [Numerics α] in
theorem reportOf_ok_iff {name : String} {stamp detected : Value} {os : List (Outcome α)}
    {r : Report α} :
    reportOf name stamp detected os = .ok r ↔
      ∃ n t, detected.toInt = .ok n ∧ stamp.toFloat = .ok t ∧
        r = ⟨Scalar.ofFloat t, n, Fuser.countAccepted os, os,
          Status.ofCounts name n (Fuser.countAccepted os)⟩ := by
  unfold reportOf
  cases hdetected : detected.toInt with
  | error f => simp [bind, Except.bind]
  | ok n =>
      cases hstamp : stamp.toFloat with
      | error f => simp [bind, Except.bind]
      | ok t => simp [bind, Except.bind, pure, Except.pure, eq_comm]

/-- What the cycles of a localizer `l` depend on.  The localizer `l'` stands for the same snapshots,
and `services` are those of the snapshots. -/
structure DependsOnSnapshots (s : Setup σ α) (l : Localizer σ α) (s' : Setup τ α)
    (l' : Localizer τ α) (services : Services α) : Prop where
  report_agree : ∀ call r r', report s l call = .ok r → report s' l' call = .ok r' → r' = r
  report_returns : s'.publish.NeverRefuses →
    ∀ call r, report s l call = .ok r → report s' l' call = .ok r
  frame_cycle : ∀ f r, report s l (.frame f) = .ok (some r) →
    ∃ ds, (detections s l f).1 = .ok (some ds) ∧
      report s l (.detections f.stamp ds (some (.int f.markers.length))) = .ok (some r)
  outcomes_own : ∀ stamp ds detected r,
    report s l (.detections stamp ds detected) = .ok (some r) →
      ds.map (Fuser.outcomeOf s.fuser services) = r.outcomes.map .ok
  permuted : ∀ {n : Nat} (ds : Fin n → Detection α) (π : Equiv.Perm (Fin n)) stamp detected r r',
    report s l (.detections stamp (List.ofFn ds) detected) = .ok (some r) →
    report s l (.detections stamp (List.ofFn (ds ∘ π)) detected) = .ok (some r') →
      (∃ os : Fin n → Outcome α,
        r.outcomes = List.ofFn os ∧ r'.outcomes = List.ofFn (os ∘ π)) ∧
      r'.accepted = r.accepted ∧
      (after s l (.detections stamp (List.ofFn (ds ∘ π)) detected)).fuser.tally =
        (after s l (.detections stamp (List.ofFn ds) detected)).fuser.tally
  permuted_returns : s.publish.NeverRefuses →
    ∀ {n : Nat} (ds : Fin n → Detection α) (π : Equiv.Perm (Fin n)) stamp detected r,
      report s l (.detections stamp (List.ofFn ds) detected) = .ok (some r) →
      ∃ r', report s l (.detections stamp (List.ofFn (ds ∘ π)) detected) = .ok (some r')

section Cycles

variable {s : Setup σ α} {l : Localizer σ α} {stamp : Value} {detected : Option Value}
variable {r : Report α}

theorem cycle_returns {ds : List (Detection α)}
    (hreturns : report s l (.detections stamp ds detected) = .ok (some r)) :
    ∃ os, (Fuser.processAll s.fuser (services s l) s.publish l.fuser ds).result = .ok os ∧
      reportOf s.name stamp (detected.getD (.int ds.length)) os = .ok r := by
  obtain ⟨q, hq, hprocess⟩ := reportCycle_some hreturns
  cases hq
  exact process_returns hprocess

theorem outcomes_of_cycle {ds : List (Detection α)}
    (hreturns : report s l (.detections stamp ds detected) = .ok (some r)) :
    ds.map (Fuser.outcomeOf s.fuser (services s l)) = r.outcomes.map .ok ∧
      r.accepted = Fuser.countAccepted r.outcomes ∧
      (after s l (.detections stamp ds detected)).fuser.tally =
        r.outcomes.foldl Fuser.countOutcome l.fuser.tally := by
  obtain ⟨os, hall, hreport⟩ := cycle_returns hreturns
  obtain ⟨n, t, _, _, rfl⟩ := reportOf_ok_iff.mp hreport
  exact ⟨Fuser.outcomes_of_processAll hall, rfl, Fuser.tally_of_processAll hall⟩

/-- A cycle on a frame of markers is a cycle on the detections found in it. -/
theorem report_frame {f : MarkerFrame} (hreturns : report s l (.frame f) = .ok (some r)) :
    ∃ ds, (detections s l f).1 = .ok (some ds) ∧
      report s l (.detections f.stamp ds (some (.int f.markers.length))) = .ok (some r) := by
  rw [report_eq_reportCycle] at hreturns
  simp only [cycleOf] at hreturns
  cases hfound : (detections s l f).1 with
  | error g =>
      rw [hfound] at hreturns
      cases hreturns
  | ok found =>
      rw [hfound] at hreturns
      cases found with
      | none => cases hreturns
      | some ds => exact ⟨ds, rfl, hreturns⟩

variable {n : Nat} {ds : Fin n → Detection α} {r' : Report α}

theorem permuted_cycle (π : Equiv.Perm (Fin n))
    (hreturns : report s l (.detections stamp (List.ofFn ds) detected) = .ok (some r))
    (hreturns' :
      report s l (.detections stamp (List.ofFn (ds ∘ π)) detected) = .ok (some r')) :
    (∃ os : Fin n → Outcome α,
      r.outcomes = List.ofFn os ∧ r'.outcomes = List.ofFn (os ∘ π)) ∧
    r'.accepted = r.accepted ∧
    (after s l (.detections stamp (List.ofFn (ds ∘ π)) detected)).fuser.tally =
      (after s l (.detections stamp (List.ofFn ds) detected)).fuser.tally := by
  obtain ⟨hfound, haccepted, htally⟩ := outcomes_of_cycle hreturns
  obtain ⟨hfound', haccepted', htally'⟩ := outcomes_of_cycle hreturns'
  obtain ⟨os, hos⟩ := exists_results hfound
  have houtcomes : r.outcomes = List.ofFn os := eq_ofFn_of_results hos hfound
  have houtcomes' : r'.outcomes = List.ofFn (os ∘ π) :=
    eq_ofFn_of_results (fun i => hos (π i)) hfound'
  have hperm : r'.outcomes.Perm r.outcomes := by
    rw [houtcomes, houtcomes']
    exact π.ofFn_comp_perm os
  refine ⟨⟨os, houtcomes, houtcomes'⟩, ?_, ?_⟩
  · rw [haccepted, haccepted']
    exact hperm.countP_eq _
  · rw [htally, htally']
    exact Fuser.foldl_countOutcome_perm hperm _

theorem permuted_cycle_returns (hpublish : s.publish.NeverRefuses) (π : Equiv.Perm (Fin n))
    (hreturns : report s l (.detections stamp (List.ofFn ds) detected) = .ok (some r)) :
    ∃ r', report s l (.detections stamp (List.ofFn (ds ∘ π)) detected) = .ok (some r') := by
  obtain ⟨found, hall, hreport⟩ := cycle_returns hreturns
  obtain ⟨os, hos⟩ := exists_results (Fuser.outcomes_of_processAll hall)
  have hfound' :
      (List.ofFn (ds ∘ π)).map (Fuser.outcomeOf s.fuser (services s l)) =
        (List.ofFn (os ∘ π)).map .ok := by
    rw [List.map_ofFn, List.map_ofFn]
    congr 1
    funext i
    exact hos (π i)
  have hall' := Fuser.processAll_of_outcomes hpublish l.fuser hfound'
  obtain ⟨k, t, hk, ht, _⟩ := reportOf_ok_iff.mp hreport
  have hcount : detected.getD (.int (List.ofFn (ds ∘ π)).length) =
      detected.getD (.int (List.ofFn ds).length) := by
    rw [List.length_ofFn, List.length_ofFn]
  obtain ⟨r', hreport'⟩ : ∃ r', reportOf s.name stamp (detected.getD (.int (List.ofFn ds).length))
      (List.ofFn (os ∘ π)) = .ok r' :=
    ⟨_, reportOf_ok_iff.mpr ⟨k, t, hk, ht, rfl⟩⟩
  refine ⟨r', ?_⟩
  simp only [report, process]
  rw [hall', hcount]
  change (reportOf s.name stamp (detected.getD (.int (List.ofFn ds).length))
    (List.ofFn (os ∘ π))).map some = .ok (some r')
  rw [hreport']
  rfl

end Cycles

/-- After any calls the cycles of a localizer are those of a new localizer that is told the last
map, the last reference pose and the first calibration only. -/
theorem depends_on_snapshots (s : Setup σ α) (published : σ) (publish : Publisher τ α)
    (nothing : τ) (calls : List (Call α)) :
    DependsOnSnapshots s (afterAll s (new published) calls) (s.withPublisher publish)
      (afterAll (s.withPublisher publish) (new nothing) (essential calls))
      ((snapshotOf calls).services s.frames) := by
  have hsnapshot : snapshot (afterAll s (new published) calls) = snapshotOf calls := by
    rw [snapshot_afterAll, snapshot_new, foldl_after_initial]
  have hessential :
      snapshot (afterAll (s.withPublisher publish) (new nothing) (essential calls)) =
        snapshotOf calls := by
    rw [snapshot_afterAll, snapshot_new, foldl_after_essential]
  constructor
  case report_agree =>
    intro call r r' hreturns hreturns'
    exact report_agree (hsnapshot.trans hessential.symm) hreturns hreturns'
  case report_returns =>
    intro hpublish call r hreturns
    exact report_of_snapshot hpublish (hsnapshot.trans hessential.symm) hreturns
  case frame_cycle =>
    intro f r hreturns
    exact report_frame hreturns
  case outcomes_own =>
    intro stamp ds detected r hreturns
    rw [← hsnapshot]
    exact (outcomes_of_cycle hreturns).1
  case permuted =>
    intro n ds π stamp detected r r' hreturns hreturns'
    exact permuted_cycle π hreturns hreturns'
  case permuted_returns =>
    intro hnever n ds π stamp detected r hreturns
    exact permuted_cycle_returns hnever π hreturns

end Reports

/-! ## A scene at the origin -/

/-- A map, one that repeats an id, two reference poses of which the second counts, and a cycle. -/
def originCalls : List (Call Float) :=
  [.landmarks [.ok OriginScene.landmark],
    .landmarks [.ok OriginScene.landmark, .ok OriginScene.landmark],
    .reference ⟨-10, Transform.identity⟩, .reference OriginScene.reference,
    .detections (.float 0) [OriginScene.detection, OriginScene.detection] none]

def originCycle : Call Float := .detections (.float 0) [OriginScene.detection] none

open scoped OriginScene in
theorem depends_on_snapshots_at_origin :
    ∃ r, report OriginScene.setup (afterAll OriginScene.setup (new 0) originCalls) originCycle =
        .ok (some r) ∧
      r.accepted = 1 ∧
      report (OriginScene.setup.withPublisher OriginScene.counter)
        (afterAll (OriginScene.setup.withPublisher OriginScene.counter) (new 0)
          [.landmarks [.ok OriginScene.landmark], .reference OriginScene.reference])
        originCycle = .ok (some r) := by
  have haccepts :
      (report OriginScene.setup (afterAll OriginScene.setup (new 0) originCalls)
        originCycle).toOption.any (·.any (·.accepted == 1)) = true := by
    decide +kernel
  have hdepends :=
    depends_on_snapshots OriginScene.setup 0 OriginScene.counter 0 originCalls
  cases hreport : report OriginScene.setup (afterAll OriginScene.setup (new 0) originCalls)
      originCycle with
  | error f =>
      rw [hreport] at haccepts
      cases haccepts
  | ok found =>
      rw [hreport] at haccepts
      cases found with
      | none => cases haccepts
      | some r =>
          have haccepted : r.accepted = 1 := beq_iff_eq.mp haccepts
          have hreturns := hdepends.report_returns OriginScene.counter_neverRefuses
          exact ⟨r, rfl, haccepted, hreturns originCycle (some r) hreport⟩

end Localizer
end Fiducial
