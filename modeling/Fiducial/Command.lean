import Fiducial.Config.File
import Fiducial.Event.Reader
import Fiducial.LandmarkMap.Reader
import Fiducial.Log.Level
import Fiducial.Marker.Solver
import Fiducial.Options
import Fiducial.PoseLog
import Fiducial.Replay.Basic

/-!
# The command

The command replays a recording with a configuration and a landmark map, all of them files, and
writes the estimates to a file or to standard output.  It ends with code 0, or with code 2 and one
line about what went wrong.  The output file is opened after configuration and map were read and
before the replay begins, so from then on it holds what the replay has written so far.  Faults of
other kinds than those reported are not handled and leave the command without a code.
-/

namespace Fiducial.Command

/-- What a run of the command leaves behind. -/
structure Run where
  /-- The exit code, or the fault that was not handled. -/
  outcome : Except Fault Nat
  /-- What was written to standard error. -/
  errors : String
  /-- What was written to standard output. -/
  output : String
  files : FileTree
  log : List Log.Entry

/-- Whether a fault in configuration or map is reported. -/
def isConfigFault (f : Fault) : Bool :=
  f.kind = .key || f.kind = .type || f.kind.isValue || f.kind.isRuntime || f.kind.isFile

/-- Whether a fault in the replay is reported. -/
def isReplayFault (f : Fault) : Bool := f.kind.isValue || f.kind.isRuntime

/-- The path of a text, which must not have the null character in it. -/
def located (cwd : Path) (s : String) : Except Fault Path :=
  if s.toList.contains '\x00' then .error (.badValue "embedded null byte")
  else .ok (Path.resolve cwd s)

/-- What a replay needs. -/
structure Loaded where
  config : Config
  frames : FrameGraph Float
  landmarks : List (Landmark Float)

def load [Yaml.Library] (t : FileTree) (cwd : Path) (o : Options) : Except Fault Loaded := do
  let config ← Config.load t (← located cwd o.config)
  let frames ← FrameGraph.ofStatic config.transforms
  let landmarks ← LandmarkMap.load t (← located cwd o.landmarks)
  return ⟨config, frames, landmarks⟩

/-- The events of the file with this name; a name that leads nowhere is a missing file. -/
def eventsOf (t : FileTree) (cwd : Path) (name : String) : Event.Stream :=
  let text := Path.plain name
  match t.follow? (if Path.isAbsolute name then [] else cwd) (Path.names name) with
  | some p => Event.load t p text
  | none => ⟨[], some (.noEventFile text)⟩

def localizerName : String := "landmark_localizer_replay"

def doneText (s : Replay.Summary) : String :=
  "replay done: events=" ++ digitText s.events ++ " cycles=" ++ digitText s.cycles ++
    " detections=" ++ intText s.detections ++ " accepted=" ++ digitText s.accepted

variable [Numerics Float] [Yaml.Library]

/-- The replay of events into a log. -/
def replay (l : Loaded) (log : PoseLog) (events : Event.Stream) : Replay.Progress PoseLog Float :=
  let setup := Setup.ofConfig l.config localizerName l.frames.lookup (PoseLog.publish 0.0)
    Marker.solver
  let p := Replay.run setup log l.landmarks events.events events.ending
  { p with log := Setup.startLog l.config localizerName ++ p.log }

/-- The end of a run in a fault: it is reported or not handled. -/
def failed (reported : Fault → Bool) (intro : String) (f : Fault) (t : FileTree) : Run :=
  if reported f then ⟨.ok 2, intro ++ f.message ++ "\n", "", t, []⟩ else ⟨.error f, "", "", t, []⟩

/-- The end of a run after a replay, with what it wrote given to its place. -/
def ended (p : Replay.Progress PoseLog Float) (t : FileTree) (deliver : String → Run → Run) : Run :=
  let written := p.state.localizer.fuser.published.text
  deliver written (match p.outcome with
    | .ok () => ⟨.ok 0, "", "", t, p.log ++ [.info (doneText p.state.summary)]⟩
    | .error f => { failed isReplayFault "" f t with log := p.log })

/-- The replay into a file, which is created or emptied first. -/
def replayInto (l : Loaded) (t : FileTree) (cwd : Path) (events out : String) : Run :=
  let opened : Except Fault (FileTree × Path) := do
    let p ← located cwd (Text.trim out)
    let t ← t.makeDirectories p.parent
    return (← t.write p ByteArray.empty, p)
  match opened with
  | .error f => failed isReplayFault "" f t
  | .ok (t, p) =>
    let progress := replay l (PoseLog.new 50 1.0 0.0) (eventsOf t cwd events)
    ended progress t fun text r => { r with files := t.set p (.file text.toUTF8) }

/-- The replay to standard output. -/
def replayOut (l : Loaded) (t : FileTree) (cwd : Path) (events : String) : Run :=
  let progress := replay l (PoseLog.new 1 0.0 0.0) (eventsOf t cwd events)
  ended progress t fun text r => { r with output := text }

/-- A run with all that is logged. -/
def runLoaded (t : FileTree) (cwd : Path) (o : Options) : Run :=
  match load t cwd o with
  | .error f => failed isConfigFault "config error: " f t
  | .ok l =>
    if Text.isBlank o.out then replayOut l t cwd o.events
    else replayInto l t cwd o.events o.out

/-- A run of the command in a working directory, with the log at the level asked for. -/
def run (t : FileTree) (cwd : Path) (o : Options) : Run :=
  match Log.severityOf (.str o.logLevel) with
  | .error f => ⟨.error f, "", "", t, []⟩
  | .ok severity =>
    let r := runLoaded t cwd o
    { r with log := Log.above severity r.log }

end Fiducial.Command
