import Fiducial.Proofs.CommandStages
import Fiducial.Proofs.EventLines
import Fiducial.Proofs.OriginScene
import Fiducial.Proofs.ReplaySteps

/-!
# Event files with a broken line

The events are read while they are replayed.  When a line of their file is broken, the replay has
done with the events before it, and what they published is written although the command ends with
code 2: it is what a run writes whose event file ends before that line.
-/

namespace Fiducial
namespace Command

/-! ## What a run leaves behind -/

def filesWith (t : FileTree) (cwd : Path) (out text : String) : FileTree :=
  if Text.isBlank out then t
  else match located cwd (Text.trim out) with
    | .ok q => t.set q (.file text.toUTF8)
    | .error _ => t

/-- The run with what was written, which is in the output file if there is one. -/
def delivered (t : FileTree) (cwd : Path) (out text : String) (r : Run) : Run :=
  if Text.isBlank out then { r with output := text }
  else { r with files := filesWith t cwd out text }

/-- What a run has written: the content of its output file, or else its output. -/
def Run.written? (r : Run) (cwd : Path) (out : String) : Option ByteArray :=
  if Text.isBlank out then some r.output.toUTF8
  else match located cwd (Text.trim out) with
    | .ok q => r.files.file? q
    | .error _ => none

theorem Run.written?_withLog (r : Run) (log : List Log.Entry) (cwd : Path) (out : String) :
    { r with log := log }.written? cwd out = r.written? cwd out := by
  simp only [Run.written?]

def publishedText [Numerics Float] (o : Options) (l : Loaded) (events : List Value) : String :=
  (replayed o l events none).state.localizer.fuser.published.text

/-- None of the events ends the replay. -/
def Completes [Numerics Float] (o : Options) (l : Loaded) (events : List Value) : Prop :=
  (Replay.steps (setupOf l) (Replay.loaded (logOf o) l.landmarks) events).outcome = .ok ()

section Stages

variable [Numerics Float] [Yaml.Library]
variable {t t' : FileTree} {cwd : Path} {o : Options} {l : Loaded}

omit [Numerics Float] [Yaml.Library] in
theorem opened_file {out : String} (hout : Text.isBlank out = false)
    (hopen : opened t cwd out = .ok t') :
    ∃ q made, located cwd (Text.trim out) = .ok q ∧ t.makeDirectories q.parent = .ok made ∧
      made.write q ByteArray.empty = .ok t' := by
  simp only [opened, hout] at hopen
  obtain ⟨q, hq, hopen⟩ := exists_of_bind_ok hopen
  obtain ⟨made, hmade, hopen⟩ := exists_of_bind_ok hopen
  exact ⟨q, made, hq, hmade, hopen⟩

theorem runLoaded_of_opened (hload : load t cwd o = .ok l) (hopen : opened t cwd o.out = .ok t') :
    runLoaded t cwd o = ended (replay l (logOf o) (eventsOf t' cwd o.events)) t'
      (delivered t' cwd o.out) := by
  unfold runLoaded
  rw [hload]
  dsimp only
  cases hout : Text.isBlank o.out with
  | true =>
      simp only [opened, hout, if_true] at hopen
      cases hopen
      simp only [replayOut, logOf, ended, delivered, hout, if_true]
  | false =>
      obtain ⟨q, made, hq, hmade, hwrite⟩ := opened_file hout hopen
      simp [replayInto, logOf, ended, delivered, filesWith, hout, hq, hmade, hwrite, bind,
        Except.bind, pure, Except.pure]

omit [Numerics Float] [Yaml.Library] in
/-- Whatever the replay came to, what it published is written. -/
theorem written?_ended (hopen : opened t cwd o.out = .ok t') (p : Replay.Progress PoseLog Float) :
    (ended p t' (delivered t' cwd o.out)).written? cwd o.out =
      some p.state.localizer.fuser.published.text.toUTF8 := by
  cases hout : Text.isBlank o.out with
  | true => simp [ended, delivered, Run.written?, hout]
  | false =>
      obtain ⟨q, made, hq, _, hwrite⟩ := opened_file hout hopen
      obtain ⟨hnode, _, _⟩ := FileTree.write_ok_iff.mp hwrite
      have hroot : q ≠ [] := by
        rintro rfl
        exact hnode (FileTree.node?_nil made)
      simp only [ended, delivered, filesWith, Run.written?, hout, hq, Bool.false_eq_true, if_false]
      exact FileTree.file?_of_node? (FileTree.node?_set_self hroot t' _)

omit [Numerics Float] [Yaml.Library] in
theorem failed_files (reported : Fault → Bool) (intro : String) (f : Fault) (t : FileTree) :
    (failed reported intro f t).files = t := by
  unfold failed
  split <;> rfl

omit [Numerics Float] [Yaml.Library] in
theorem ended_files (p : Replay.Progress PoseLog Float) :
    (ended p t' (delivered t' cwd o.out)).files =
      filesWith t' cwd o.out p.state.localizer.fuser.published.text := by
  unfold ended delivered
  dsimp only
  split
  next hout =>
    rw [filesWith, if_pos hout]
    cases p.outcome with
    | ok u => rfl
    | error f => exact failed_files isReplayFault "" f t'
  next => rfl

omit [Numerics Float] [Yaml.Library] in
theorem ended_errors {p : Replay.Progress PoseLog Float} {f : Fault} (hfails : p.outcome = .error f)
    (hreported : isReplayFault f = true) :
    (ended p t' (delivered t' cwd o.out)).errors = f.message ++ "\n" := by
  have hmessage : "" ++ f.message ++ "\n" = f.message ++ "\n" := by rw [String.empty_append]
  unfold ended delivered
  simp only [hfails, failed, hreported, if_true, hmessage]
  split <;> rfl

/-- The log aside, a run of the command is one with all that is logged. -/
theorem run_of_parse {args : List String} (hparse : Options.parse args = .run o) (t : FileTree)
    (cwd : Path) :
    ∃ log, run t cwd o = { runLoaded t cwd o with log := log } := by
  obtain ⟨severity, hseverity⟩ := Options.severity_of_parse hparse
  refine ⟨Log.above severity (runLoaded t cwd o).log, ?_⟩
  simp only [run, hseverity]

end Stages

/-! ## The same command with other events -/

section Events

variable [Numerics Float] [Yaml.Library]
variable {t t' : FileTree} {cwd : Path} {o : Options} {l : Loaded}

omit [Yaml.Library] in
/-- A replay that no event ends comes to the fault in which reading the events ended. -/
theorem replayed_of_completes (hids : (l.landmarks.map (·.id)).Nodup) {events : List Value}
    (hcompletes : Completes o l events) (ending : Option Fault) :
    (replayed o l events ending).outcome = (match ending with
      | none => .ok ()
      | some f => .error f) ∧
      (replayed o l events ending).state = (replayed o l events none).state := by
  obtain ⟨r, hcollect⟩ := Registry.collect_of_nodup hids
  have hreturns : (replayed o l events none).outcome = .ok () :=
    (Replay.run_of_collect (setupOf l) (logOf o) hcollect events).1.trans hcompletes
  cases ending with
  | none => exact ⟨hreturns, rfl⟩
  | some f => exact Replay.run_of_ending hreturns f

omit [Numerics Float] in
/-- What is loaded does not depend on a file that is neither the configuration nor the map. -/
theorem load_of_sameBut {p : Path} {d d' : ByteArray} {u : FileTree}
    (hsame : FileTree.SameBut p d d' t u) (hconfig : located cwd o.config ≠ .ok p)
    (hmap : located cwd o.landmarks ≠ .ok p) : load u cwd o = load t cwd o := by
  unfold load Config.load LandmarkMap.load LandmarkMap.document
  cases hc : located cwd o.config with
  | error f => rfl
  | ok c =>
      have hcne : c ≠ p := by
        rintro rfl
        exact hconfig hc
      cases hm : located cwd o.landmarks with
      | error f => simp only [bind, Except.bind, hsame.read_eq hcne]
      | ok m =>
          have hmne : m ≠ p := by
            rintro rfl
            exact hmap hm
          simp only [bind, Except.bind, hsame.read_eq hcne, hsame.read_eq hmne, hsame.exists?_eq m]

omit [Numerics Float] [Yaml.Library] in
/-- The output is opened whatever a file that is not empty holds in the end. -/
theorem opened_of_set {p : Path} {data : ByteArray} {out : String}
    (hopen : opened t cwd out = .ok t') (hfile : t'.file? p = some data)
    (hdata : data ≠ ByteArray.empty) (data' : ByteArray) :
    ∃ u', opened (t.set p (.file data')) cwd out = .ok u' ∧
      FileTree.SameBut p data data' t' u' ∧
      ∀ text,
        FileTree.SameBut p data data' (filesWith t' cwd out text) (filesWith u' cwd out text) := by
  have hnode := FileTree.node?_of_file? hfile
  cases hout : Text.isBlank out with
  | true =>
      simp only [opened, hout, if_true] at hopen ⊢
      cases hopen
      have hsame := FileTree.sameBut_set hnode data'
      refine ⟨_, rfl, hsame, fun text => ?_⟩
      simpa only [filesWith, hout, if_true] using hsame
  | false =>
      obtain ⟨q, made, hq, hmade, hwrite⟩ := opened_file hout hopen
      obtain ⟨hdirectory, _, hset⟩ := FileTree.write_ok_iff.mp hwrite
      -- The output is empty once it is opened, so it is not the file.
      have hne : p ≠ q := by
        rintro rfl
        have hroot : p ≠ [] := FileTree.ne_nil_of_file hnode
        rw [hset, FileTree.node?_set_self hroot] at hnode
        cases hnode
        exact hdata rfl
      have hbefore : t.node? p = some (.file data) := by
        rw [hset, FileTree.node?_set_of_ne hne] at hnode
        exact FileTree.file_of_makeDirectories hmade hnode
      obtain ⟨um, hum, hmadeSame⟩ := (FileTree.sameBut_set hbefore data').makeDirectories hmade
      obtain ⟨u', hu', hsame⟩ := hmadeSame.write hne hwrite
      refine ⟨u', ?_, hsame, fun text => ?_⟩
      · simp only [opened, hout, hq, hum, bind, Except.bind, Bool.false_eq_true, if_false]
        exact hu'
      · simp only [filesWith, hout, hq, Bool.false_eq_true, if_false]
        exact hsame.set hne _

end Events

/-! ## Runs on an event file -/

section Runs

variable [Numerics Float] [Yaml.Library]
variable {t t' : FileTree} {cwd : Path} {o : Options} {l : Loaded} {p : Path} {s : String}

/-- The name of the event file leads to this path, where there is this text. -/
structure EventText (t : FileTree) (cwd : Path) (o : Options) (p : Path) (s : String) : Prop where
  path : t.follow? (if Path.isAbsolute o.events then [] else cwd) (Path.names o.events) = some p
  text : ∃ data, t.file? p = some data ∧ Text.decode? data = some s

omit [Numerics Float] [Yaml.Library] in
theorem EventText.eventsOf_eq (hevents : EventText t cwd o p s) :
    eventsOf t cwd o.events = Event.ofLines (Path.plain o.events) 1 none (Text.lines s) := by
  obtain ⟨data, hfile, hdecode⟩ := hevents.text
  unfold eventsOf
  rw [hevents.path]
  exact Event.load_of_text hfile hdecode _

/-- What a run leaves behind that has replayed these events. -/
structure Leaves (t' : FileTree) (cwd : Path) (o : Options) (l : Loaded) (events : List Value)
    (ending : Option Fault) (r : Run) : Prop where
  outcome : r.outcome = match ending with
    | none => .ok 0
    | some f => handled isReplayFault f
  errors : ∀ f, ending = some f → isReplayFault f = true → r.errors = f.message ++ "\n"
  written : r.written? cwd o.out = some (publishedText o l events).toUTF8
  files : r.files = filesWith t' cwd o.out (publishedText o l events)

omit [Yaml.Library] in
theorem Leaves.withLog {events : List Value} {ending : Option Fault} {r : Run}
    (hleaves : Leaves t' cwd o l events ending r) (log : List Log.Entry) :
    Leaves t' cwd o l events ending { r with log := log } where
  outcome := hleaves.outcome
  errors := hleaves.errors
  written := (r.written?_withLog log cwd o.out).trans hleaves.written
  files := hleaves.files

/-- The tree in which only so many lines are left of the event file. -/
def cutAfter (t : FileTree) (p : Path) (s : String) (n : Nat) : FileTree :=
  t.set p (.file (Text.firstLines n s).toUTF8)

/-- What is left of a run that meets a broken line after the lines in `before`. -/
structure StopsAfter (t t' : FileTree) (cwd : Path) (o : Options) (l : Loaded) (p : Path)
    (s : String) (before : List String) (f : Fault) : Prop where
  events : eventsOf t' cwd o.events = ⟨Event.objects before, some f⟩
  objects : Event.Lists before (Event.objects before)
  names : Event.Names (Path.plain o.events) (before.length + 1) f
  code : (run t cwd o).outcome = .ok 2
  errors : (run t cwd o).errors = f.message ++ "\n"
  written : (run t cwd o).written? cwd o.out =
    some (publishedText o l (Event.objects before)).toUTF8
  /-- A run on the file cut off before the line ends well and has written the same.  It loads the
  same unless the event file is at once the configuration or the map, by `load_of_sameBut`. -/
  cut : load (cutAfter t p s before.length) cwd o = .ok l →
    (run (cutAfter t p s before.length) cwd o).outcome = .ok 0 ∧
      (run (cutAfter t p s before.length) cwd o).written? cwd o.out =
        (run t cwd o).written? cwd o.out ∧
      ∀ q, q ≠ p → (run (cutAfter t p s before.length) cwd o).files.node? q =
        (run t cwd o).files.node? q

/-- What a run leaves that meets no broken line. -/
structure EndsWell (t t' : FileTree) (cwd : Path) (o : Options) (l : Loaded)
    (lines : List String) : Prop where
  events : eventsOf t' cwd o.events = ⟨Event.objects lines, none⟩
  objects : Event.Lists lines (Event.objects lines)
  code : (run t cwd o).outcome = .ok 0
  written : (run t cwd o).written? cwd o.out =
    some (publishedText o l (Event.objects lines)).toUTF8

section Outcomes

variable {args : List String} (hparse : Options.parse args = .run o) (hload : load t cwd o = .ok l)
variable (hids : (l.landmarks.map (·.id)).Nodup) (hopen : opened t cwd o.out = .ok t')

include hparse hload hids hopen

theorem run_leaves {events : List Value} {ending : Option Fault}
    (hevents : eventsOf t' cwd o.events = ⟨events, ending⟩) (hcompletes : Completes o l events) :
    Leaves t' cwd o l events ending (run t cwd o) := by
  obtain ⟨log, hrun⟩ := run_of_parse hparse t cwd
  obtain ⟨houtcome, hstate⟩ := replayed_of_completes hids hcompletes ending
  have hloaded := runLoaded_of_opened hload hopen
  have hcode := runLoaded_outcome t cwd o
  rw [hload] at hcode
  dsimp only at hcode
  rw [hopen] at hcode
  dsimp only [replayOutcome] at hcode
  rw [hevents] at hcode hloaded
  dsimp only at hcode
  rw [hrun]
  apply Leaves.withLog
  constructor
  case outcome =>
    rw [hcode, houtcome]
    cases ending <;> rfl
  case errors =>
    rintro f rfl hreported
    rw [hloaded]
    exact ended_errors houtcome hreported
  case written =>
    rw [hloaded, written?_ended hopen]
    exact congrArg (fun state : Replay.State PoseLog Float =>
      some state.localizer.fuser.published.text.toUTF8) hstate
  case files =>
    rw [hloaded, ended_files]
    exact congrArg (fun state : Replay.State PoseLog Float =>
      filesWith t' cwd o.out state.localizer.fuser.published.text) hstate

omit hload in
/-- The run on the file cut off ends well, and once its output is opened its files are the same but
for that one. -/
theorem run_cutAfter_leaves (htext : EventText t' cwd o p s) {before after : List String}
    {line : String} (hlines : Text.lines s = before ++ line :: after)
    (hbefore : ∀ line ∈ before, Event.Whole line)
    (hcompletes : Completes o l (Event.objects before))
    (hcutLoad : load (cutAfter t p s before.length) cwd o = .ok l) :
    ∃ u', Leaves u' cwd o l (Event.objects before) none
        (run (cutAfter t p s before.length) cwd o) ∧
      ∀ text q, q ≠ p →
        (filesWith u' cwd o.out text).node? q = (filesWith t' cwd o.out text).node? q := by
  obtain ⟨data, hfile, hdecode⟩ := htext.text
  -- A file with a broken line is not empty, so it is not the output.
  have hdata : data ≠ ByteArray.empty := by
    rintro rfl
    have hempty : s = "" := by
      rw [Text.decode?_empty] at hdecode
      exact (Option.some.inj hdecode).symm
    rw [hempty] at hlines
    exact List.cons_ne_nil _ _ (List.append_eq_nil_iff.mp hlines.symm).2
  obtain ⟨u', hcutOpen, hsame, hfiles⟩ :=
    opened_of_set hopen hfile hdata (Text.firstLines before.length s).toUTF8
  have hcutText : EventText u' cwd o p (Text.firstLines before.length s) := {
    path := by rw [hsame.follow?_eq, htext.path]
    text := ⟨_, FileTree.file?_of_node? hsame.right, Text.decode?_toUTF8 _⟩ }
  -- The lines that are left are whole, so reading them ends without a fault.
  have hcutEvents : eventsOf u' cwd o.events = ⟨Event.objects before, none⟩ := by
    rw [hcutText.eventsOf_eq, Text.lines_firstLines, hlines, List.take_left,
      Event.ofLines_whole hbefore]
  exact ⟨u', run_leaves hparse hcutLoad hids hcutOpen hcutEvents hcompletes,
    fun text => (hfiles text).elsewhere⟩

theorem stopsAfter (htext : EventText t' cwd o p s) {before after : List String} {line : String}
    (hlines : Text.lines s = before ++ line :: after)
    (hbefore : ∀ line ∈ before, Event.Whole line) (hbroken : ¬ Event.Whole line)
    (hjudged : Event.Judged line) (hcompletes : Completes o l (Event.objects before)) :
    ∃ f, StopsAfter t t' cwd o l p s before f := by
  obtain ⟨f, hread, hnames⟩ := Event.ofLines_broken hbefore hbroken hjudged
    (Path.plain o.events) 1 none after
  rw [Nat.add_comm] at hnames
  have hevents : eventsOf t' cwd o.events = ⟨Event.objects before, some f⟩ := by
    rw [htext.eventsOf_eq, hlines, hread]
  have hleaves := run_leaves hparse hload hids hopen hevents hcompletes
  refine ⟨f, hevents, Event.lists_objects hbefore, hnames, ?_,
    hleaves.errors f rfl hnames.isReplayFault, hleaves.written, fun hcutLoad => ?_⟩
  · rw [hleaves.outcome]
    simp [handled, hnames.isReplayFault]
  · obtain ⟨u', hcut, hfiles⟩ :=
      run_cutAfter_leaves hparse hids hopen htext hlines hbefore hcompletes hcutLoad
    refine ⟨hcut.outcome, hcut.written.trans hleaves.written.symm, fun q hq => ?_⟩
    rw [hcut.files, hleaves.files]
    exact hfiles _ q hq

theorem endsWell (htext : EventText t' cwd o p s)
    (hwhole : ∀ line ∈ Text.lines s, Event.Whole line)
    (hcompletes : Completes o l (Event.objects (Text.lines s))) :
    EndsWell t t' cwd o l (Text.lines s) := by
  have hevents : eventsOf t' cwd o.events = ⟨Event.objects (Text.lines s), none⟩ := by
    rw [htext.eventsOf_eq, Event.ofLines_whole hwhole]
  have hleaves := run_leaves hparse hload hids hopen hevents hcompletes
  exact ⟨hevents, Event.lists_objects hwhole, hleaves.outcome, hleaves.written⟩

end Outcomes

/-- The first broken line of the event file, if there is one, decides how the run ends, and takes
nothing away from what the events before it publish. -/
structure LosesNothing (t t' : FileTree) (cwd : Path) (o : Options) (l : Loaded) (p : Path)
    (s : String) : Prop where
  broken : ∀ (before : List String) (line : String) (after : List String),
    Text.lines s = before ++ line :: after → (∀ line ∈ before, Event.Whole line) →
    ¬ Event.Whole line → Event.Judged line → Completes o l (Event.objects before) →
    ∃ f, StopsAfter t t' cwd o l p s before f
  whole : (∀ line ∈ Text.lines s, Event.Whole line) →
    Completes o l (Event.objects (Text.lines s)) → EndsWell t t' cwd o l (Text.lines s)

/-- A command whose configuration and map are loaded, and whose output is opened, loses nothing of
what comes before a broken line of its event file. -/
theorem run_losesNothing {args : List String} (hparse : Options.parse args = .run o)
    (hload : load t cwd o = .ok l) (hids : (l.landmarks.map (·.id)).Nodup)
    (hopen : opened t cwd o.out = .ok t') (htext : EventText t' cwd o p s) :
    LosesNothing t t' cwd o l p s where
  broken _ _ _ hlines hbefore hbroken hjudged hcompletes :=
    stopsAfter hparse hload hids hopen htext hlines hbefore hbroken hjudged hcompletes
  whole hwhole hcompletes := endsWell hparse hload hids hopen htext hwhole hcompletes

end Runs

/-! ### A broken line after a record -/

section Record

open scoped OriginScene

def recordArgs : List String :=
  ["--config", "c.yaml", "--landmarks", "m.json", "--events", "e.jsonl", "--out", "out.jsonl"]

def recordOptions : Options := ⟨"c.yaml", "m.json", "e.jsonl", "out.jsonl", "INFO"⟩

def recordConfig : String :=
  "target_tag_ids: [\"5\"]\nbase_covariance: [" ++ ",".intercalate (List.replicate 36 "1") ++
    "]\ndistance_threshold_m: 10\nekf_time_tolerance_s: 1\nekf_position_tolerance_m: 1\n"

def recordMap : String :=
  "\x7b\"landmarks\": [\x7b\"id\": \"5\", \"position\": [0, 0, 0]\x7d]\x7d"

def referenceLine : String :=
  "\x7b\"type\":\"reference_pose\",\"t\":0,\"position\":[0,0,0]\x7d"

/-- A landmark is seen by a sensor that is the vehicle itself. -/
def detectionsLine : String :=
  "\x7b\"type\":\"detections\",\"t\":0,\"sensor_frame\":\"base_link\"," ++
    "\"detections\":[\x7b\"id\":\"5\",\"rvec\":[0,0,0],\"tvec\":[0,0,0]\x7d]\x7d"

def recordBefore : List String := [referenceLine, "", detectionsLine]

/-- Two objects with a blank line between them, and a bracket that is not closed. -/
def recordEvents : String := referenceLine ++ "\r\n\n" ++ detectionsLine ++ "\r[\n"

def recordFiles : FileTree :=
  ⟨[(["c.yaml"], .file recordConfig.toUTF8), (["m.json"], .file recordMap.toUTF8),
    (["e.jsonl"], .file recordEvents.toUTF8)]⟩

def writesRecord (l : Loaded) : Bool :=
  let p := Replay.steps (setupOf l) (Replay.loaded (logOf recordOptions) l.landmarks)
    (Event.objects recordBefore)
  decide ((l.landmarks.map fun m => m.id) = ["5"]) && p.outcome.isOk &&
    decide (p.state.localizer.fuser.published.written = 1)

theorem exists_writesRecord :
    ∃ l, load recordFiles [] recordOptions = .ok l ∧ writesRecord l = true := by
  have hload : (load recordFiles [] recordOptions).toOption.any writesRecord = true := by
    decide +kernel
  cases hl : load recordFiles [] recordOptions with
  | error f =>
      rw [hl] at hload
      cases hload
  | ok l =>
      rw [hl] at hload
      exact ⟨l, rfl, hload⟩

/-- The record of the first two objects is written, and so it is without the lines after them. -/
theorem run_losesNothing_record :
    ∃ l t' f, load recordFiles [] recordOptions = .ok l ∧
      StopsAfter recordFiles t' [] recordOptions l ["e.jsonl"] recordEvents recordBefore f ∧
      (run (cutAfter recordFiles ["e.jsonl"] recordEvents recordBefore.length) []
        recordOptions).outcome = .ok 0 ∧
      (replayed recordOptions l (Event.objects recordBefore)
        none).state.localizer.fuser.published.written = 1 := by
  have hparse : Options.parse recordArgs = .run recordOptions := by decide +kernel
  obtain ⟨l, hload, hwrites⟩ := exists_writesRecord
  simp only [writesRecord, Bool.and_eq_true, decide_eq_true_eq] at hwrites
  obtain ⟨⟨hids, hcompletes⟩, hone⟩ := hwrites
  have hnodup : (l.landmarks.map (·.id)).Nodup := by
    rw [hids]
    exact List.nodup_singleton _
  obtain ⟨r, hcollect⟩ := Registry.collect_of_nodup hnodup
  rw [← (Replay.run_of_collect (setupOf l) (logOf recordOptions) hcollect _).2] at hone
  have hopen : opened recordFiles [] recordOptions.out =
      .ok (recordFiles.set ["out.jsonl"] (.file ByteArray.empty)) := rfl
  have htext : EventText (recordFiles.set ["out.jsonl"] (.file ByteArray.empty)) [] recordOptions
      ["e.jsonl"] recordEvents :=
    ⟨by decide +kernel, _, rfl, Text.decode?_toUTF8 recordEvents⟩
  have hlines : Text.lines recordEvents = recordBefore ++ "[" :: [] := by
    decide +kernel
  have hlose := run_losesNothing hparse hload hnodup hopen htext
  obtain ⟨f, hstops⟩ := hlose.broken recordBefore "[" [] hlines (by decide +kernel)
    (by decide +kernel) (by decide +kernel) (Replay.Progress.returns_of_isOk hcompletes)
  have hsame : FileTree.SameBut ["e.jsonl"] recordEvents.toUTF8
      (Text.firstLines recordBefore.length recordEvents).toUTF8 recordFiles
      (cutAfter recordFiles ["e.jsonl"] recordEvents recordBefore.length) :=
    FileTree.sameBut_set rfl _
  have hconfig : located [] recordOptions.config = .ok ["c.yaml"] := rfl
  have hmap : located [] recordOptions.landmarks = .ok ["m.json"] := rfl
  have hcutLoad :
      load (cutAfter recordFiles ["e.jsonl"] recordEvents recordBefore.length) [] recordOptions =
        .ok l := by
    rw [load_of_sameBut hsame (by simp [hconfig]) (by simp [hmap]), hload]
  obtain ⟨hcutOutcome, _, _⟩ := hstops.cut hcutLoad
  exact ⟨l, _, f, hload, hstops, hcutOutcome, hone⟩

end Record

end Command
end Fiducial
