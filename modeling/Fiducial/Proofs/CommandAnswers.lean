import Fiducial.Proofs.CommandStages
import Fiducial.Proofs.LoadingFaults
import Fiducial.Proofs.ReplayEnding
import Fiducial.Proofs.YamlFaults

/-!
# Which code the command ends with

The command ends with code 0 or 2 unless a fault is left that it does not handle.  While
configuration and map are loaded these are the faults of the library that reads YAML, as far as they
are not of a kind that is handled, and of numbers beyond the doubles; in the replay they are the
overflows.  Besides, an output file that cannot be opened and an event file that is a directory
leave their faults.  The library may be any.  The one here leaves the faults of YAML itself and of
scalars that it converts without a look at their text.
-/

namespace Fiducial
namespace Command

/-- The kinds of fault that are handled neither while loading nor in the replay, but for those of
files and for what else a library that reads YAML may fail with. -/
def unhandled : List Fault.Kind := [.malformed, .index, .member, .overflow]

section Faults

variable [Numerics Float] [Yaml.Library]
variable (t : FileTree) (cwd : Path) (o : Options)

/-- The faults that the command leaves. -/
inductive Escapes : Fault → Prop
  | document {f : Fault} (hread : configDocument t cwd o = .error f)
      (hleft : isConfigFault f = false) : Escapes f
  | config {v : Value} (hread : configDocument t cwd o = .ok v)
      (hconfig : Config.ofDocument v = .error .tooLarge) : Escapes .tooLarge
  | frames {v : Value} {c : Config} (hread : configDocument t cwd o = .ok v)
      (hconfig : Config.ofDocument v = .ok c)
      (hframes : (FrameGraph.ofStatic c.transforms : Except Fault (FrameGraph Float)) =
        .error .tooLarge) : Escapes .tooLarge
  | landmarks {v : Value} {c : Config} {g : FrameGraph Float} {vs : List Value}
      (hread : configDocument t cwd o = .ok v) (hconfig : Config.ofDocument v = .ok c)
      (hframes : FrameGraph.ofStatic c.transforms = .ok g) (hentries : mapEntries t cwd o = .ok vs)
      (hlandmarks : (LandmarkMap.landmarksOf vs : Except Fault (List (Landmark Float))) =
        .error .tooLarge) : Escapes .tooLarge
  | output {l : Loaded} {f : Fault} (hload : load t cwd o = .ok l)
      (hopen : opened t cwd o.out = .error f) (hfile : f.kind.isFile = true) : Escapes f
  | directory {l : Loaded} {t' : FileTree} {r : Registry Float}
      (hload : load t cwd o = .ok l) (hopen : opened t cwd o.out = .ok t')
      (hmap : Registry.collect (l.landmarks.map .ok) = .ok r)
      (hevents : eventsOf t' cwd o.events = ⟨[], some (.isDirectory (Path.plain o.events))⟩) :
      Escapes (.isDirectory (Path.plain o.events))
  | event {l : Loaded} {t' : FileTree} {before after : List (List (Value × Value))}
      {es : List (Value × Value)} {f : Fault} (hload : load t cwd o = .ok l)
      (hopen : opened t cwd o.out = .ok t')
      (hevents : (eventsOf t' cwd o.events).events = (before ++ es :: after).map .map)
      (hbefore : (replayed o l (before.map .map) none).outcome = .ok ())
      (hends : Replay.Ends (setupOf l) (replayed o l (before.map .map) none).state.localizer es f)
      (hkind : f.kind = .overflow) : Escapes f

/-- Why a fault is left: the configuration is not read by YAML, a number that is loaded is beyond
the doubles, an event has a cause to end the replay, or a file cannot be had. -/
inductive Cause : Fault → Prop
  | document {f : Fault} (hread : configDocument t cwd o = .error f) : Cause f
  | config {v : Value} (hread : configDocument t cwd o = .ok v) (hhuge : v.HoldsHuge) :
      Cause .tooLarge
  | transform {v : Value} {c : Config} {s : StaticTransform}
      (hread : configDocument t cwd o = .ok v) (hconfig : Config.ofDocument v = .ok c)
      (hmem : s ∈ c.transforms) (hhuge : s.HoldsHuge) : Cause .tooLarge
  | landmark {vs : List Value} {v : Value} (hentries : mapEntries t cwd o = .ok vs)
      (hmem : v ∈ vs) (hhuge : v.HoldsHuge) : Cause .tooLarge
  | event {l : Loaded} {t' : FileTree} {s : Localizer PoseLog Float} {es : List (Value × Value)}
      {f : Fault} (hload : load t cwd o = .ok l) (hopen : opened t cwd o.out = .ok t')
      (hmem : .map es ∈ (eventsOf t' cwd o.events).events)
      (hcause : Replay.Cause (setupOf l) s es f) : Cause f
  | file {f : Fault} (hfile : f.kind.isFile = true) : Cause f

end Faults

section Answers

variable [Numerics Float] [Yaml.Library]
variable {t : FileTree} {cwd : Path} {o : Options}

theorem cause_of_escapes {f : Fault} (hescapes : Escapes t cwd o f) : Cause t cwd o f := by
  cases hescapes with
  | document hread _ => exact .document hread
  | @config v hread hconfig =>
      exact .config hread ((Config.ofDocument_skipped v).huge_of_tooLarge hconfig)
  | @frames v c hread hconfig hframes =>
      obtain ⟨s, hmem, hhuge⟩ :=
        (FrameGraph.ofStatic_skipped c.transforms).huge_of_tooLarge hframes
      exact .transform hread hconfig hmem hhuge
  | @landmarks v c g vs _ _ _ hentries hlandmarks =>
      obtain ⟨v, hmem, hhuge⟩ :=
        (LandmarkMap.landmarksOf_skipped vs).huge_of_tooLarge hlandmarks
      exact .landmark hentries hmem hhuge
  | output _ _ hfile => exact .file hfile
  | directory => exact .file rfl
  | event hload hopen hevents _ hends _ =>
      refine .event hload hopen ?_ (Replay.cause_of_ends hends)
      rw [hevents]
      exact List.mem_map_of_mem (by simp)

/-! ### Loading -/

omit [Numerics Float] [Yaml.Library] in
theorem isConfigFault_of_isSkipped {f : Fault} (hf : Replay.isSkipped f = true) :
    isConfigFault f = true := by
  unfold isConfigFault
  unfold Replay.isSkipped at hf
  rw [hf, Bool.true_or]

omit [Numerics Float] [Yaml.Library] in
/-- What is not reported of a conversion is a number beyond the doubles. -/
theorem tooLarge_of_skipped {β : Type} {huge : Prop} {x : Except Fault β} {f : Fault}
    (hx : SkippedUnless huge x) (hf : x = .error f) (hleft : isConfigFault f = false) :
    f = .tooLarge := by
  rcases hx f hf with hskipped | ⟨hlarge, _⟩
  · rw [isConfigFault_of_isSkipped hskipped] at hleft
    cases hleft
  · exact hlarge

omit [Numerics Float] [Yaml.Library] in
theorem located_reported (s : String) :
    FailsWith (fun f => isConfigFault f = true) (located cwd s) :=
  .ite (.error rfl) (.ok _)

omit [Numerics Float] [Yaml.Library] in
theorem read_reported (p : Path) (text : String) :
    FailsWith (fun f => isConfigFault f = true) (t.read p text) := by
  unfold FileTree.read
  split
  · exact .ok _
  · exact .error rfl
  · split <;> exact .error rfl

omit [Numerics Float] [Yaml.Library] in
theorem unhandled_of_refused {f : Fault} (hf : Yaml.Refused f) (hleft : isConfigFault f = false) :
    f.kind ∈ unhandled := by
  unfold Yaml.Refused Yaml.refusals at hf
  unfold isConfigFault at hleft
  unfold unhandled
  simp only [List.mem_cons, List.not_mem_nil, or_false] at hf ⊢
  rcases hf with hkind | hkind | hkind | hkind | hkind | hkind | hkind | hkind <;>
    simp [hkind, Fault.Kind.isValue, Fault.Kind.isRuntime] at hleft ⊢

omit [Numerics Float] in
/-- A library that fails as this one does leaves only faults of the kinds that are not handled. -/
theorem unhandled_of_configDocument
    (hrefuses : ∀ text, FailsWith Yaml.Refused (Yaml.Library.read text)) {f : Fault}
    (hread : configDocument t cwd o = .error f) (hleft : isConfigFault f = false) :
    f.kind ∈ unhandled := by
  have hreported (f : Fault) (hf : isConfigFault f = true) (hleft : isConfigFault f = false) :
      f.kind ∈ unhandled := by
    rw [hf] at hleft
    cases hleft
  have hfails : FailsWith (fun f => isConfigFault f = false → f.kind ∈ unhandled)
      (configDocument t cwd o) := by
    apply FailsWith.bind ((located_reported o.config).mono hreported)
    intro p _
    apply FailsWith.bind ((read_reported p p.text).mono hreported)
    intro data _
    split
    · exact .error (hreported _ rfl)
    · exact (hrefuses _).mono fun f => unhandled_of_refused
  exact hfails f hread hleft

theorem kind_of_escapes (hrefuses : ∀ text, FailsWith Yaml.Refused (Yaml.Library.read text))
    {f : Fault} (hescapes : Escapes t cwd o f) : f.kind ∈ unhandled ∨ f.kind.isFile = true := by
  cases hescapes with
  | document hread hleft => exact .inl (unhandled_of_configDocument hrefuses hread hleft)
  | output _ _ hfile => exact .inr hfile
  | directory => exact .inr rfl
  | event _ _ _ _ _ hkind =>
      rw [hkind]
      exact .inl (by decide)
  | _ => exact .inl (by decide)

omit [Numerics Float] in
theorem mapEntries_reported : FailsWith (fun f => isConfigFault f = true) (mapEntries t cwd o) := by
  have hruntime (f : Fault) (hf : f.kind.isRuntime = true) : isConfigFault f = true := by
    simp [isConfigFault, hf]
  apply FailsWith.bind (located_reported o.landmarks)
  intro p _
  apply FailsWith.bind ((LandmarkMap.document_runtime t p).mono hruntime)
  intro v _
  exact (LandmarkMap.listed_runtime v).mono hruntime

theorem escapes_of_load {f : Fault} (hload : load t cwd o = .error f)
    (hleft : isConfigFault f = false) : Escapes t cwd o f := by
  rw [load_eq] at hload
  rcases bind_error_iff.mp hload with hread | ⟨v, hread, hload⟩
  · exact .document hread hleft
  rcases bind_error_iff.mp hload with hconfig | ⟨c, hconfig, hload⟩
  · obtain rfl := tooLarge_of_skipped (Config.ofDocument_skipped v) hconfig hleft
    exact .config hread hconfig
  rcases bind_error_iff.mp hload with hframes | ⟨g, hframes, hload⟩
  · obtain rfl := tooLarge_of_skipped (FrameGraph.ofStatic_skipped c.transforms) hframes hleft
    exact .frames hread hconfig hframes
  rcases bind_error_iff.mp hload with hentries | ⟨vs, hentries, hload⟩
  · rw [mapEntries_reported f hentries] at hleft
    cases hleft
  rcases bind_error_iff.mp hload with hlandmarks | ⟨_, _, hdone⟩
  · obtain rfl := tooLarge_of_skipped (LandmarkMap.landmarksOf_skipped vs) hlandmarks hleft
    exact .landmarks hread hconfig hframes hentries hlandmarks
  · cases hdone

/-! ### The output -/

omit [Numerics Float] [Yaml.Library] in
theorem opened_fails (out : String) :
    FailsWith (fun f => isReplayFault f = true ∨ f.kind.isFile = true) (opened t cwd out) := by
  unfold opened
  refine .ite (.ok _) ?_
  apply FailsWith.bind
  · exact .ite (.error (.inl rfl)) (.ok _)
  · intro p _
    apply FailsWith.bind
    · unfold FileTree.makeDirectories
      split
      · exact .ok _
      · exact .error (.inr rfl)
      · exact .ite (.error (.inr rfl)) (.ok _)
    · intro made _
      unfold FileTree.write
      split
      · exact .error (.inr rfl)
      · exact .ok _
      · split <;> exact .error (.inr rfl)

omit [Numerics Float] [Yaml.Library] in
theorem isReplayFault_of_isFile {f : Fault} (hf : f.kind.isFile = true) :
    isReplayFault f = false := by
  unfold isReplayFault
  cases hkind : f.kind <;> simp_all [Fault.Kind.isFile, Fault.Kind.isValue, Fault.Kind.isRuntime]

/-! ### The replay -/

omit [Numerics Float] [Yaml.Library] in
theorem eventsOf_cases (t' : FileTree) (name : String) :
    (eventsOf t' cwd name).Reported ∨
      eventsOf t' cwd name = ⟨[], some (.isDirectory (Path.plain name))⟩ := by
  unfold eventsOf
  extract_lets text
  split
  next p _ =>
    by_cases hdirectory : t'.node? p = some .directory
    · exact .inr (Event.load_directory hdirectory text)
    · exact .inl (Event.load_reported hdirectory text)
  next => exact .inl ⟨⟨[], rfl⟩, by rintro f ⟨⟩; rfl⟩

omit [Yaml.Library] in
theorem setupOf_refuses (l : Loaded) : Replay.RefusesSkipped (setupOf l).publish :=
  fun log e => PoseLog.publish_skipped 0.0 log e

omit [Numerics Float] [Yaml.Library] in
theorem handled_error_iff {reported : Fault → Bool} {f g : Fault} :
    handled reported g = .error f ↔ g = f ∧ reported f = false := by
  unfold handled
  constructor
  · intro hleft
    split at hleft
    · cases hleft
    next hg =>
      cases hleft
      exact ⟨rfl, by simpa using hg⟩
  · rintro ⟨rfl, hg⟩
    simp [hg]

omit [Yaml.Library] in
theorem replayOutcome_error_iff (l : Loaded) (s : Event.Stream) (f : Fault) :
    replayOutcome o l s = .error f ↔
      (replayed o l s.events s.ending).outcome = .error f ∧ isReplayFault f = false := by
  unfold replayOutcome
  cases (replayed o l s.events s.ending).outcome with
  | ok u => simp
  | error g => simp [handled_error_iff]

theorem escapes_of_replay {l : Loaded} {t' : FileTree} {f : Fault} (hload : load t cwd o = .ok l)
    (hopen : opened t cwd o.out = .ok t')
    (hfails : replayOutcome o l (eventsOf t' cwd o.events) = .error f) : Escapes t cwd o f := by
  obtain ⟨houtcome, hleft⟩ := (replayOutcome_error_iff l _ f).mp hfails
  obtain ⟨events, hevents⟩ : ∃ events : List (List (Value × Value)),
      (eventsOf t' cwd o.events).events = events.map .map := by
    rcases eventsOf_cases t' o.events with hreported | hdirectory
    · exact hreported.mappings
    · exact ⟨[], by rw [hdirectory]; rfl⟩
  unfold replayed at houtcome
  rw [hevents, Replay.run_error_iff (setupOf_refuses l)] at houtcome
  rcases houtcome with hduplicate |
    ⟨r, hmap, ⟨before, es, after, rfl, hbefore, hends⟩ | ⟨_, hending⟩⟩
  · have hkind := Registry.collect_duplicate l.landmarks f hduplicate
    simp [isReplayFault, hkind, Fault.Kind.isValue] at hleft
  · rcases Replay.kind_of_ends hends with hkind | hkind
    · simp [isReplayFault, hkind, Fault.Kind.isValue] at hleft
    · exact .event hload hopen hevents hbefore hends hkind
  · rcases eventsOf_cases t' o.events with hreported | hdirectory
    · rw [hreported.ending f hending] at hleft
      cases hleft
    · rw [hdirectory] at hending
      cases hending
      exact .directory hload hopen hmap hdirectory

/-! ### The whole -/

theorem escapes_of_runLoaded {f : Fault} (hfails : (runLoaded t cwd o).outcome = .error f) :
    Escapes t cwd o f := by
  rw [runLoaded_outcome] at hfails
  cases hload : load t cwd o with
  | error g =>
      rw [hload] at hfails
      obtain ⟨rfl, hleft⟩ := handled_error_iff.mp hfails
      exact escapes_of_load hload hleft
  | ok l =>
      rw [hload] at hfails
      dsimp only at hfails
      cases hopen : opened t cwd o.out with
      | error g =>
          rw [hopen] at hfails
          obtain ⟨rfl, hleft⟩ := handled_error_iff.mp hfails
          rcases opened_fails o.out g hopen with hreported | hfile
          · rw [hreported] at hleft
            cases hleft
          · exact .output hload hopen hfile
      | ok t' =>
          rw [hopen] at hfails
          exact escapes_of_replay hload hopen hfails

theorem runLoaded_of_load {f : Fault} (hload : load t cwd o = .error f)
    (hleft : isConfigFault f = false) : (runLoaded t cwd o).outcome = .error f := by
  rw [runLoaded_outcome, hload]
  exact handled_error_iff.mpr ⟨rfl, hleft⟩

theorem runLoaded_of_replay {l : Loaded} {t' : FileTree} {f : Fault}
    (hload : load t cwd o = .ok l) (hopen : opened t cwd o.out = .ok t')
    (hfails : (replayed o l (eventsOf t' cwd o.events).events
      (eventsOf t' cwd o.events).ending).outcome = .error f)
    (hleft : isReplayFault f = false) : (runLoaded t cwd o).outcome = .error f := by
  rw [runLoaded_outcome, hload]
  dsimp only
  rw [hopen]
  exact (replayOutcome_error_iff l _ f).mpr ⟨hfails, hleft⟩

theorem runLoaded_of_escapes {f : Fault} (hescapes : Escapes t cwd o f) :
    (runLoaded t cwd o).outcome = .error f := by
  cases hescapes with
  | document hread hleft =>
      apply runLoaded_of_load _ hleft
      rw [load_eq, hread]
      rfl
  | config hread hconfig =>
      apply runLoaded_of_load _ rfl
      rw [load_eq, hread]
      change (Config.ofDocument _ >>= _) = _
      rw [hconfig]
      rfl
  | frames hread hconfig hframes =>
      apply runLoaded_of_load _ rfl
      simp [load_eq, hread, hconfig, hframes, bind, Except.bind]
  | landmarks hread hconfig hframes hentries hlandmarks =>
      apply runLoaded_of_load _ rfl
      simp [load_eq, hread, hconfig, hframes, hentries, hlandmarks, bind, Except.bind]
  | output hload hopen hfile =>
      rw [runLoaded_outcome, hload]
      dsimp only
      rw [hopen]
      exact handled_error_iff.mpr ⟨rfl, isReplayFault_of_isFile hfile⟩
  | @directory l t' r hload hopen hmap hevents =>
      apply runLoaded_of_replay hload hopen _ rfl
      have hnone : (replayed o l [] none).outcome = .ok () :=
        (Replay.run_of_collect (setupOf l) (logOf o) hmap []).1
      rw [hevents]
      exact (Replay.run_error_iff (setupOf_refuses l) _ _ [] _ _).mpr
        (.inr ⟨r, hmap, .inr ⟨hnone, rfl⟩⟩)
  | @event l t' before after es f hload hopen hevents hbefore hends hkind =>
      apply runLoaded_of_replay hload hopen
      · rw [hevents]
        obtain ⟨_, r, hmap⟩ := Replay.run_ok hbefore
        exact (Replay.run_error_iff (setupOf_refuses l) _ _ _ _ f).mpr
          (.inr ⟨r, hmap, .inl ⟨before, es, after, rfl, hbefore, hends⟩⟩)
      · simp [isReplayFault, hkind, Fault.Kind.isValue, Fault.Kind.isRuntime]

/-- The command leaves a fault exactly if that is one of those listed. -/
theorem runLoaded_error_iff (f : Fault) :
    (runLoaded t cwd o).outcome = .error f ↔ Escapes t cwd o f :=
  ⟨escapes_of_runLoaded, runLoaded_of_escapes⟩

omit [Numerics Float] [Yaml.Library] in
theorem handled_ok_iff {reported : Fault → Bool} {f : Fault} {n : Nat} :
    handled reported f = .ok n ↔ reported f = true ∧ n = 2 := by
  unfold handled
  split
  next hf => simp [hf, eq_comm]
  next hf => simp [hf]

/-- Code 0 says that everything was loaded, opened and replayed to the end of the events. -/
theorem runLoaded_ok_zero (hzero : (runLoaded t cwd o).outcome = .ok 0) :
    ∃ l t', load t cwd o = .ok l ∧ opened t cwd o.out = .ok t' ∧
      (eventsOf t' cwd o.events).ending = none := by
  rw [runLoaded_outcome] at hzero
  cases hload : load t cwd o with
  | error f =>
      rw [hload] at hzero
      cases (handled_ok_iff.mp hzero).2
  | ok l =>
      rw [hload] at hzero
      dsimp only at hzero
      cases hopen : opened t cwd o.out with
      | error f =>
          rw [hopen] at hzero
          cases (handled_ok_iff.mp hzero).2
      | ok t' =>
          rw [hopen] at hzero
          refine ⟨l, t', rfl, rfl, ?_⟩
          dsimp only [replayOutcome] at hzero
          split at hzero
          next hreplayed => exact (Replay.run_ok hreplayed).1
          next => cases (handled_ok_iff.mp hzero).2

theorem runLoaded_ok (n : Nat) (hok : (runLoaded t cwd o).outcome = .ok n) : n = 0 ∨ n = 2 := by
  rw [runLoaded_outcome] at hok
  split at hok
  next => exact .inr (handled_ok_iff.mp hok).2
  next =>
    split at hok
    next => exact .inr (handled_ok_iff.mp hok).2
    next =>
      unfold replayOutcome at hok
      split at hok
      next =>
        cases hok
        exact .inl rfl
      next => exact .inr (handled_ok_iff.mp hok).2

theorem runLoaded_errors {f : Fault} (hload : load t cwd o = .error f)
    (hreported : isConfigFault f = true) :
    (runLoaded t cwd o).errors = "config error: " ++ f.message ++ "\n" := by
  simp [runLoaded, hload, failed, hreported]

end Answers

/-- What a command answers: it leaves the faults listed, which have a cause in what it was given,
and otherwise it ends with code 0 or 2.  It is 2, with the reason, when configuration or map cannot
be loaded, and 2 when some line of the events cannot be read. -/
structure Answers [Numerics Float] [Yaml.Library] (t : FileTree) (cwd : Path) (o : Options) :
    Prop where
  error_iff : ∀ f, (run t cwd o).outcome = .error f ↔ Escapes t cwd o f
  /-- It depends on the library that reads YAML which kinds of fault these are. -/
  kind : (∀ text, FailsWith Yaml.Refused (Yaml.Library.read text)) →
    ∀ f, Escapes t cwd o f → f.kind ∈ unhandled ∨ f.kind.isFile = true
  cause : ∀ f, Escapes t cwd o f → Cause t cwd o f
  code : (∀ f, ¬ Escapes t cwd o f) →
    (run t cwd o).outcome = .ok 0 ∨ (run t cwd o).outcome = .ok 2
  unloaded : (∀ f, ¬ Escapes t cwd o f) → ∀ f, load t cwd o = .error f →
    (run t cwd o).outcome = .ok 2 ∧ (run t cwd o).errors = "config error: " ++ f.message ++ "\n"
  unread : (∀ f, ¬ Escapes t cwd o f) → ∀ t' f, opened t cwd o.out = .ok t' →
    (eventsOf t' cwd o.events).ending = some f → (run t cwd o).outcome = .ok 2

theorem run_answers [Numerics Float] [Yaml.Library] {args : List String} {o : Options}
    (hparse : Options.parse args = .run o) (t : FileTree) (cwd : Path) : Answers t cwd o := by
  obtain ⟨severity, hseverity⟩ := Options.severity_of_parse hparse
  have houtcome : (run t cwd o).outcome = (runLoaded t cwd o).outcome := by
    simp only [run, hseverity]
  have herrors : (run t cwd o).errors = (runLoaded t cwd o).errors := by
    simp only [run, hseverity]
  have hcode (hnone : ∀ f, ¬ Escapes t cwd o f) :
      (runLoaded t cwd o).outcome = .ok 0 ∨ (runLoaded t cwd o).outcome = .ok 2 := by
    cases hended : (runLoaded t cwd o).outcome with
    | error f => exact absurd (escapes_of_runLoaded hended) (hnone f)
    | ok n => simpa using runLoaded_ok n hended
  constructor
  case error_iff =>
    intro f
    rw [houtcome]
    exact runLoaded_error_iff f
  case kind => exact fun hrefuses f => kind_of_escapes hrefuses
  case cause => exact fun f => cause_of_escapes
  case code =>
    intro hnone
    rw [houtcome]
    exact hcode hnone
  case unloaded =>
    intro hnone f hload
    rw [houtcome, herrors]
    constructor
    · rcases hcode hnone with hzero | htwo
      · obtain ⟨l, _, hloaded, _⟩ := runLoaded_ok_zero hzero
        rw [hload] at hloaded
        cases hloaded
      · exact htwo
    · apply runLoaded_errors hload
      by_contra hleft
      exact hnone f (escapes_of_load hload (by simpa using hleft))
  case unread =>
    intro hnone t' f hopen hending
    rw [houtcome]
    rcases hcode hnone with hzero | htwo
    · obtain ⟨_, t'', _, hopened, hended⟩ := runLoaded_ok_zero hzero
      rw [hopen] at hopened
      cases hopened
      rw [hending] at hended
      cases hended
    · exact htwo

/-! ## A configuration with a bracket left open -/

def brokenArgs : List String :=
  ["--config", "c.yaml", "--landmarks", "l.yaml", "--events", "e.jsonl"]

def brokenOptions : Options := ⟨"c.yaml", "l.yaml", "e.jsonl", "", "INFO"⟩

def brokenFiles : FileTree :=
  ⟨[(["c.yaml"], .file "a: [\n".toUTF8), (["l.yaml"], .file "landmarks: []\n".toUTF8),
    (["e.jsonl"], .file ByteArray.empty)]⟩

def isMalformed {β : Type} : Except Fault β → Bool
  | .error .malformedData => true
  | _ => false

theorem error_of_isMalformed {β : Type} {x : Except Fault β} (hx : isMalformed x = true) :
    x = .error .malformedData := by
  unfold isMalformed at hx
  split at hx
  · rfl
  · cases hx

theorem run_answers_broken :
    Options.parse brokenArgs = .run brokenOptions ∧
      (∀ text, FailsWith Yaml.Refused (Yaml.Library.read text)) ∧
      (run brokenFiles [] brokenOptions).outcome = .error .malformedData := by
  have hparse : Options.parse brokenArgs = .run brokenOptions := by decide +kernel
  have hread : configDocument brokenFiles [] brokenOptions = .error .malformedData :=
    error_of_isMalformed (by decide +kernel)
  refine ⟨hparse, Yaml.read_refused, ?_⟩
  exact ((run_answers hparse brokenFiles []).error_iff .malformedData).mpr (.document hread rfl)

end Command
end Fiducial
