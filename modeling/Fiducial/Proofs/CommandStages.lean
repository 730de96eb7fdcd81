import Fiducial.Command
import Fiducial.Proofs.ConversionFaults

/-!
# The stages of the command

The command loads what it needs, opens its output and replays the events.  A fault in one of these
stages either is reported, and the command ends with code 2, or it is left.  Of the arguments only
one thing matters: the level of the log that is asked for is one that has a severity.
-/

namespace Fiducial

/-! ## Arguments -/

namespace Options

/-- Each value is one that its option can have. -/
def Reading.Chosen (r : Reading) : Prop := ∀ p ∈ r.values, p.1.choices = [] ∨ p.2 ∈ p.1.choices

theorem Reading.Chosen.give {r r' : Reading} {f : Flag} {v : String} (hr : r.Chosen)
    (hgive : r.give f v = .ok r') : r'.Chosen := by
  unfold Reading.give at hgive
  split at hgive
  · cases hgive
  next hchoice =>
    cases hgive
    intro p hp
    rcases List.mem_cons.mp hp with rfl | hp
    · by_cases hany : f.choices = []
      · exact .inl hany
      · right
        simpa [hany] using hchoice
    · exact hr p hp

theorem Reading.Chosen.consume {words : List (String × Word)} {r r' : Reading} (hr : r.Chosen)
    (hconsume : Options.consume r words = .ok r') : r'.Chosen := by
  fun_induction Options.consume r words with
  | case1 =>
      cases hconsume
      exact hr
  | case2 | case3 | case4 | case7 => cases hconsume
  | case5 _ _ _ _ _ _ ih | case6 _ _ _ _ _ _ ih =>
      obtain ⟨given, hgive, hrest⟩ := exists_of_bind_ok hconsume
      exact ih given (hr.give hgive) hrest
  | case8 _ _ _ _ _ _ _ _ _ _ ih => exact ih hr hconsume

/-- Help and mistakes end the reading without options. -/
theorem helpWith_ne_run (letters : List Char) (o : Options) : helpWith letters ≠ .run o := by
  fun_induction helpWith letters with
  | case2 _ _ _ ih => exact ih
  | _ => rintro ⟨⟩

theorem give_ne_run (r : Reading) (f : Flag) (v : String) (o : Options) :
    r.give f v ≠ .error (.run o) := by
  unfold Reading.give
  split
  · rintro ⟨⟩
  · rintro ⟨⟩

theorem consume_ne_run (r : Reading) (words : List (String × Word)) (o : Options) :
    consume r words ≠ .error (.run o) := by
  fun_induction consume r words with
  | case1 | case3 | case4 | case7 => rintro ⟨⟩
  | case2 _ _ letters =>
      intro hhelp
      exact helpWith_ne_run letters o (Except.error.inj hhelp)
  | case5 r _ f v _ _ ih | case6 r _ f v _ _ ih =>
      cases hgive : r.give f v with
      | error p =>
          rintro ⟨⟩
          exact give_ne_run r f v o hgive
      | ok given => exact ih given
  | case8 _ _ _ _ _ _ _ _ _ _ ih => exact ih

theorem logLevel_of_parse {args : List String} {o : Options} (hparse : parse args = .run o) :
    o.logLevel ∈ Flag.choices .logLevel := by
  unfold parse at hparse
  split at hparse
  · cases hparse
  next words _ =>
    split at hparse
    next p hconsume =>
      subst hparse
      exact absurd hconsume (consume_ne_run _ words o)
    next r hconsume =>
      have hchosen : r.Chosen := Reading.Chosen.consume (by simp [Reading.Chosen]) hconsume
      unfold finish at hparse
      dsimp only at hparse
      split at hparse
      · cases hparse
      · split at hparse
        · cases hparse
        · cases hparse
          change (r.value? .logLevel).getD _ ∈ _
          cases hvalue : r.value? .logLevel with
          | none => decide
          | some v =>
              obtain ⟨before, after, hvalues, _⟩ := List.lookup_eq_some_iff.mp hvalue
              have hmem : (Flag.logLevel, v) ∈ r.values := by simp [hvalues]
              rcases hchosen _ hmem with hnone | hmem
              · cases hnone
              · exact hmem

/-- A level that is one of the choices has a severity. -/
theorem severity_of_parse {args : List String} {o : Options} (hparse : parse args = .run o) :
    ∃ severity, Log.severityOf (.str o.logLevel) = .ok severity := by
  have hchoices : ∀ level ∈ Flag.choices .logLevel,
      (Log.severityOf (.str level)).isOk = true := by
    decide +kernel
  have hok := hchoices _ (logLevel_of_parse hparse)
  cases hseverity : Log.severityOf (.str o.logLevel) with
  | ok severity => exact ⟨severity, rfl⟩
  | error f =>
      rw [hseverity] at hok
      cases hok

end Options

namespace Command

/-! ## What is loaded -/

/-- The document in the configuration file. -/
def configDocument [Yaml.Library] (t : FileTree) (cwd : Path) (o : Options) :
    Except Fault Value := do
  let p ← located cwd o.config
  let data ← t.read p p.text
  match Text.readFile? data with
  | none => throw .notUtf8
  | some text => Yaml.Library.read text

/-- The entries that the landmark map lists. -/
def mapEntries [Yaml.Library] (t : FileTree) (cwd : Path) (o : Options) :
    Except Fault (List Value) := do
  let p ← located cwd o.landmarks
  LandmarkMap.listed (← LandmarkMap.document t p)

theorem load_eq [Yaml.Library] (t : FileTree) (cwd : Path) (o : Options) :
    load t cwd o = do
      let config ← Config.ofDocument (← configDocument t cwd o)
      let frames ← FrameGraph.ofStatic config.transforms
      let landmarks ← LandmarkMap.landmarksOf (← mapEntries t cwd o)
      return ⟨config, frames, landmarks⟩ := by
  unfold load configDocument mapEntries Config.load Config.ofContent LandmarkMap.load
  simp only [bind_assoc]
  congr 1
  funext p
  congr 1
  funext data
  cases Text.readFile? data with
  | none => rfl
  | some text => simp only [bind_assoc]

/-! ## Stages -/

/-- The files once the output is opened, which is empty then. -/
def opened (t : FileTree) (cwd : Path) (out : String) : Except Fault FileTree :=
  if Text.isBlank out then .ok t
  else do
    let p ← located cwd (Text.trim out)
    let t ← t.makeDirectories p.parent
    t.write p ByteArray.empty

/-- The log that is written to, as it is at first. -/
def logOf (o : Options) : PoseLog :=
  if Text.isBlank o.out then PoseLog.new 1 0.0 0.0 else PoseLog.new 50 1.0 0.0

variable [Numerics Float]

/-- The setup of the localizer. -/
def setupOf (l : Loaded) : Setup PoseLog Float :=
  Setup.ofConfig l.config localizerName l.frames.lookup (PoseLog.publish 0.0) Marker.solver

/-- The replay of some events. -/
def replayed (o : Options) (l : Loaded) (events : List Value) (ending : Option Fault) :
    Replay.Progress PoseLog Float :=
  Replay.run (setupOf l) (logOf o) l.landmarks events ending

/-- The code of a fault that is reported; one that is not is left. -/
def handled (reported : Fault → Bool) (f : Fault) : Except Fault Nat :=
  if reported f then .ok 2 else .error f

/-- How a command ends that has loaded what it needs. -/
def replayOutcome (o : Options) (l : Loaded) (s : Event.Stream) : Except Fault Nat :=
  match (replayed o l s.events s.ending).outcome with
  | .ok () => .ok 0
  | .error f => handled isReplayFault f

omit [Numerics Float] in
theorem failed_outcome (reported : Fault → Bool) (intro : String) (f : Fault) (t : FileTree) :
    (failed reported intro f t).outcome = handled reported f := by
  unfold failed handled
  split <;> rfl

omit [Numerics Float] in
theorem ended_outcome (p : Replay.Progress PoseLog Float) (t : FileTree)
    {deliver : String → Run → Run} (hdeliver : ∀ text r, (deliver text r).outcome = r.outcome) :
    (ended p t deliver).outcome =
      match p.outcome with
      | .ok () => .ok 0
      | .error f => handled isReplayFault f := by
  unfold ended
  rw [hdeliver]
  cases p.outcome with
  | ok u => rfl
  | error f => exact failed_outcome isReplayFault "" f t

theorem runLoaded_outcome [Yaml.Library] (t : FileTree) (cwd : Path) (o : Options) :
    (runLoaded t cwd o).outcome =
      match load t cwd o with
      | .error f => handled isConfigFault f
      | .ok l => match opened t cwd o.out with
        | .error f => handled isReplayFault f
        | .ok t' => replayOutcome o l (eventsOf t' cwd o.events) := by
  unfold runLoaded
  cases load t cwd o with
  | error f => exact failed_outcome _ _ f t
  | ok l =>
      dsimp only
      by_cases hblank : Text.isBlank o.out = true
      · simp only [if_pos hblank, opened, replayOut, replayOutcome, replayed, logOf]
        exact ended_outcome _ _ fun _ _ => rfl
      · simp only [if_neg hblank, opened, replayInto, replayOutcome, replayed, logOf]
        cases located cwd (Text.trim o.out) with
        | error f => exact failed_outcome _ _ f t
        | ok p =>
            simp only [bind, Except.bind]
            cases t.makeDirectories p.parent with
            | error f => exact failed_outcome _ _ f t
            | ok made =>
                dsimp only
                cases made.write p ByteArray.empty with
                | error f => exact failed_outcome _ _ f t
                | ok t' => exact ended_outcome _ _ fun _ _ => rfl

end Command
end Fiducial
