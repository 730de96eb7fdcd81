import Fiducial.Command

/-!
# The program

Reads the files that the options name, runs the command on them, and writes what it leaves behind.
-/

namespace Fiducial.Program

/-- What is at a path of the file system. -/
def nodeAt (path : Path) : IO (Option FileNode) := do
  try
    let place ← IO.FS.realPath path.text
    if ← place.isDir then return some .directory
    else return some (.file (← IO.FS.readBinFile place))
  catch _ => return none

/-- The paths on the way to a path, and itself. -/
def ancestors (path : Path) : List Path := (List.range (path.length + 1)).map path.take

/-- The part of the file system that some paths lie in. -/
def snapshot (paths : List Path) : IO FileTree := do
  let mut tree := FileTree.empty
  for path in (paths.flatMap ancestors).eraseDups do
    if let some node ← nodeAt path then tree := tree.set path node
  return tree

/-- Makes the directories and files that are new or have changed. -/
def store (before after : FileTree) : IO Unit := do
  for (path, node) in after.entries.reverse do
    match node with
    | .directory => if !before.exists? path then IO.FS.createDirAll path.text
    | .file data =>
      if (before.file? path).map (·.toList) ≠ some data.toList then
        IO.FS.writeBinFile path.text data

/-- A log entry as a line. -/
def logText (e : Log.Entry) : String :=
  let cause := match e.cause with
    | some f => f.message
    | none => ""
  e.level.name ++ " " ++ Log.loggerName ++ ": " ++ e.text ++ cause

def name : String := "landmark-localizer-replay"

def usage : String :=
  "usage: " ++ name ++ " [-h] --config CONFIG --landmarks LANDMARKS --events EVENTS [--out OUT] " ++
    "[--log-level \x7bDEBUG,INFO,WARNING,ERROR\x7d]"

def runWith (options : Options) : IO UInt32 := do
  let cwd := Path.names (← IO.currentDir).toString
  let given := [options.config, options.landmarks, options.events, Text.trim options.out]
  let tree ← snapshot (given.map (Path.resolve cwd))
  let run := Command.run tree cwd options
  store tree run.files
  for entry in run.log do IO.eprintln (logText entry)
  IO.print run.output
  IO.eprint run.errors
  match run.outcome with
  | .ok code => return code.toUInt32
  | .error fault =>
    IO.eprintln (fault.kind.name ++ ": " ++ fault.message)
    return 1

end Fiducial.Program

def main (args : List String) : IO UInt32 := do
  match Fiducial.Options.parse args with
  | .help =>
    IO.println Fiducial.Program.usage
    return 0
  | .wrong message =>
    IO.eprintln (Fiducial.Program.usage ++ "\n" ++ Fiducial.Program.name ++ ": error: " ++ message)
    return 2
  | .run options => Fiducial.Program.runWith options
