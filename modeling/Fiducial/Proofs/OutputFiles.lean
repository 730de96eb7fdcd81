import Fiducial.Proofs.BrokenEvents
import Fiducial.Proofs.RegistryBuilding

/-!
# What becomes of an output file that is there already

Configuration, fixed transforms and landmark map are loaded before the output is opened, so whatever
is wrong with one of them, every file stays as it was.  That two landmarks of the map have one id is
found later, when the replay builds its registry.  The output has been opened by then, and what it
held before is lost.
-/

namespace Fiducial

/-! ## Files in directories -/

namespace FileTree

/-- At the path there is a file of this content, in a directory. -/
structure Holds (t : FileTree) (p : Path) (d : ByteArray) : Prop where
  file : t.node? p = some (.file d)
  parent : t.node? p.parent = some .directory

theorem set_set (t : FileTree) (p : Path) (m n : FileNode) : (t.set p m).set p n = t.set p n := by
  simp [set, List.filter_filter]

/-- The directory is there already, so nothing but the file is touched. -/
theorem Holds.write {t : FileTree} {p : Path} {d : ByteArray} (hholds : t.Holds p d)
    (d' : ByteArray) :
    t.makeDirectories p.parent = .ok t ∧ t.write p d' = .ok (t.set p (.file d')) := by
  constructor
  · rw [makeDirectories_eq, hholds.parent]
  · rw [write_ok_iff]
    exact ⟨by simp [hholds.file], hholds.parent, rfl⟩

theorem Holds.file?_set {t : FileTree} {p : Path} {d : ByteArray} (hholds : t.Holds p d)
    (d' : ByteArray) : (t.set p (.file d')).file? p = some d' :=
  file?_of_node? (node?_set_self (ne_nil_of_file hholds.file) t _)

end FileTree

namespace Command

section Output

variable [Numerics Float] [Yaml.Library]
variable {t : FileTree} {cwd : Path} {o : Options} {l : Loaded} {p : Path} {d : ByteArray}
  {f : Fault}

/-! ## Faults before the output is opened -/

theorem runLoaded_of_unloaded (hload : load t cwd o = .error f) :
    (runLoaded t cwd o).files = t ∧ (runLoaded t cwd o).outcome = handled isConfigFault f := by
  unfold runLoaded
  rw [hload]
  exact ⟨failed_files isConfigFault _ f t, failed_outcome isConfigFault _ f t⟩

/-! ## Repeated ids -/

omit [Yaml.Library] in
/-- A replay that cannot build its registry has written nothing. -/
theorem replayed_of_repeated (o : Options) (hbuild : Registry.build l.landmarks = .error f)
    (events : List Value) (ending : Option Fault) :
    (replayed o l events ending).outcome = .error f ∧
      (replayed o l events ending).state.localizer.fuser.published.text = "" := by
  have hcollect : Registry.collect (l.landmarks.map .ok) = .error f :=
    (Registry.collect_map_ok l.landmarks).trans hbuild
  have hempty : (logOf o).text = "" := by
    unfold logOf
    split <;> rfl
  simp only [replayed, Replay.run, Localizer.setLandmarks, hcollect]
  exact ⟨trivial, hempty⟩

omit [Numerics Float] [Yaml.Library] in
theorem isReplayFault_of_build (hbuild : Registry.build l.landmarks = .error f) :
    isReplayFault f = true := by
  obtain ⟨m, _, rfl⟩ := Registry.build_error_iff.mp hbuild
  rfl

omit [Numerics Float] [Yaml.Library] in
theorem opened_of_holds (hout : Text.isBlank o.out = false)
    (hplace : located cwd (Text.trim o.out) = .ok p) (hholds : t.Holds p d) :
    opened t cwd o.out = .ok (t.set p (.file ByteArray.empty)) := by
  obtain ⟨hmade, hwrite⟩ := hholds.write ByteArray.empty
  simp only [opened, hout, hplace, bind, Except.bind, hmade, Bool.false_eq_true, if_false]
  exact hwrite

/-- The output is opened, then the registry cannot be built: the file has been emptied. -/
theorem runLoaded_of_repeated (hout : Text.isBlank o.out = false)
    (hplace : located cwd (Text.trim o.out) = .ok p) (hholds : t.Holds p d)
    (hload : load t cwd o = .ok l) (hbuild : Registry.build l.landmarks = .error f) :
    (runLoaded t cwd o).files = t.set p (.file ByteArray.empty) ∧
      (runLoaded t cwd o).outcome = .ok 2 ∧
      (runLoaded t cwd o).errors = f.message ++ "\n" := by
  have hopen := opened_of_holds hout hplace hholds
  have hreported := isReplayFault_of_build hbuild
  have hreplayed := replayed_of_repeated o hbuild
  refine ⟨?_, ?_, ?_⟩
  · rw [runLoaded_of_opened hload hopen, ended_files]
    change filesWith _ cwd o.out (replayed o l _ _).state.localizer.fuser.published.text = _
    rw [(hreplayed _ _).2]
    simp only [filesWith, hout, hplace, Bool.false_eq_true, if_false]
    exact FileTree.set_set t p _ _
  · rw [runLoaded_outcome, hload]
    dsimp only
    rw [hopen]
    simp [replayOutcome, (hreplayed _ _).1, handled, hreported]
  · rw [runLoaded_of_opened hload hopen]
    exact ended_errors (hreplayed _ _).1 hreported

/-! ## Configuration errors -/

/-- What the command is given is in error: configuration, fixed transforms or map cannot be loaded,
or two landmarks of the map have one id. -/
inductive ConfigError (t : FileTree) (cwd : Path) (o : Options) : Fault → Prop
  | unloaded {f : Fault} (hload : load t cwd o = .error f) (hreported : isConfigFault f = true) :
      ConfigError t cwd o f
  | repeated {l : Loaded} {f : Fault} (hload : load t cwd o = .ok l)
      (hbuild : Registry.build l.landmarks = .error f) : ConfigError t cwd o f

/-- What a configuration error leaves of the file that the output option names. -/
structure TreatsOutput (t : FileTree) (cwd : Path) (o : Options) (p : Path) (d : ByteArray) :
    Prop where
  code : ∀ f, ConfigError t cwd o f → (run t cwd o).outcome = .ok 2
  /-- Whatever keeps configuration, transforms or map from being loaded leaves all files alone. -/
  unloaded : ∀ f, load t cwd o = .error f → (run t cwd o).files = t
  /-- A map in which an id is repeated costs the content of the file, and no other file. -/
  repeated : ∀ l f, load t cwd o = .ok l → Registry.build l.landmarks = .error f →
    (∃ m, Registry.FirstRepeat l.landmarks m ∧ f = .duplicateLandmark m.id) ∧
      (run t cwd o).errors = f.message ++ "\n" ∧
      (run t cwd o).files = t.set p (.file ByteArray.empty)
  kept_iff : ∀ f, ConfigError t cwd o f →
    ((run t cwd o).files.file? p = some d ↔ d = ByteArray.empty ∨ load t cwd o = .error f)

theorem run_treatsOutput {args : List String} (hparse : Options.parse args = .run o)
    (hout : Text.isBlank o.out = false) (hplace : located cwd (Text.trim o.out) = .ok p)
    (hholds : t.Holds p d) : TreatsOutput t cwd o p d := by
  obtain ⟨log, hrun⟩ := run_of_parse hparse t cwd
  constructor
  case code =>
    intro f herror
    rw [hrun]
    cases herror with
    | unloaded hload hreported =>
        rw [(runLoaded_of_unloaded hload).2]
        simp [handled, hreported]
    | repeated hload hbuild => exact (runLoaded_of_repeated hout hplace hholds hload hbuild).2.1
  case unloaded =>
    intro f hload
    rw [hrun]
    exact (runLoaded_of_unloaded hload).1
  case repeated =>
    intro l f hload hbuild
    obtain ⟨hfiles, _, herrors⟩ := runLoaded_of_repeated hout hplace hholds hload hbuild
    rw [hrun]
    exact ⟨Registry.build_error_iff.mp hbuild, herrors, hfiles⟩
  case kept_iff =>
    intro f herror
    rw [hrun]
    cases herror with
    | unloaded hload hreported =>
        rw [(runLoaded_of_unloaded hload).1]
        simp [hload, FileTree.file?_of_node? hholds.file]
    | repeated hload hbuild =>
        rw [(runLoaded_of_repeated hout hplace hholds hload hbuild).1, hholds.file?_set, hload]
        simp [eq_comm]

end Output

/-! ## A map with one id twice -/

def repeatedMap : String :=
  "\x7b\"landmarks\": [\x7b\"id\": \"5\", \"position\": [0, 0, 0]\x7d, " ++
    "\x7b\"id\": \"5\", \"position\": [1, 0, 0]\x7d]\x7d"

/-- There is no event, and the output file holds a line of an earlier run. -/
def repeatedFiles : FileTree :=
  ⟨[(["c.yaml"], .file recordConfig.toUTF8), (["m.json"], .file repeatedMap.toUTF8),
    (["e.jsonl"], .file ByteArray.empty), (["out.jsonl"], .file "\x7b\x7d\n".toUTF8)]⟩

theorem exists_repeated : ∃ l f, load repeatedFiles [] recordOptions = .ok l ∧
    Registry.build l.landmarks = .error f := by
  have hrepeats : ((load repeatedFiles [] recordOptions).toOption.any fun l =>
      !(Registry.build l.landmarks).isOk) = true := by decide +kernel
  cases hload : load repeatedFiles [] recordOptions with
  | error f =>
      rw [hload] at hrepeats
      cases hrepeats
  | ok l =>
      rw [hload] at hrepeats
      cases hbuild : Registry.build l.landmarks with
      | error f => exact ⟨l, f, rfl, hbuild⟩
      | ok r => simp [hbuild, Except.toOption, Except.isOk, Except.toBool] at hrepeats

open scoped OriginScene in
/-- The command ends with code 2, and the line of the earlier run is gone. -/
theorem run_treatsOutput_repeated :
    repeatedFiles.Holds ["out.jsonl"] "\x7b\x7d\n".toUTF8 ∧
      (run repeatedFiles [] recordOptions).outcome = .ok 2 ∧
      (run repeatedFiles [] recordOptions).files.file? ["out.jsonl"] = some ByteArray.empty := by
  have hparse : Options.parse recordArgs = .run recordOptions := by decide +kernel
  have hholds : repeatedFiles.Holds ["out.jsonl"] "\x7b\x7d\n".toUTF8 := ⟨rfl, rfl⟩
  obtain ⟨l, f, hload, hbuild⟩ := exists_repeated
  have htreats := @run_treatsOutput _ _ repeatedFiles [] _ _ _ _ hparse (by decide) rfl hholds
  obtain ⟨_, _, hfiles⟩ := htreats.repeated l f hload hbuild
  refine ⟨hholds, htreats.code f (.repeated hload hbuild), ?_⟩
  rw [hfiles]
  exact hholds.file?_set _

end Command
end Fiducial
