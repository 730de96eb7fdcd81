import Fiducial.LandmarkMap.Entry
import Fiducial.Files.Tree
import Fiducial.Json.Reader
import Fiducial.Yaml.Reader

/-!
# Landmark map files

A landmark map is a JSON or YAML file, told apart by the ending of its name, with a list of entries.
Whatever goes wrong in reading the file, it is the file that cannot be read.
-/

namespace Fiducial.LandmarkMap

variable [Yaml.Library]

/-- The document in a file of this name. -/
def parse (ending : String) (text path : String) : Except Fault Value :=
  if ending = ".json" then (Json.read text).mapError Json.Trouble.fault
  else if ending = ".yaml" || ending = ".yml" then Yaml.Library.read text
  else .error (.badMapFormat path)

/-- Faults at run time stand for themselves. -/
def asUnreadable (path : String) (f : Fault) : Fault :=
  if f.kind.isRuntime then f else .unreadableMap path

/-- The document of the file at a path. -/
def document (t : FileTree) (p : Path) : Except Fault Value :=
  if !t.exists? p then .error (.noMapFile p.text)
  else (do
    let data ← t.read p p.text
    match Text.readFile? data with
    | none => throw Fault.notUtf8
    | some text => parse (String.ofList (p.suffix.toList.map Char.toLower)) text p.text).mapError
      (asUnreadable p.text)

/-- The entries that a document lists. -/
def listed (v : Value) : Except Fault (List Value) :=
  match v with
  | .map es =>
    match Value.lookup "landmarks" es with
    | some (.list vs) => .ok vs
    | _ => .error .mapWithoutList
  | _ => .error .mapNotMapping

/-- The landmarks of the map file at a path. -/
def load {α : Type} [Scalar α] (t : FileTree) (p : Path) : Except Fault (List (Landmark α)) := do
  landmarksOf (← listed (← document t p))

end Fiducial.LandmarkMap
