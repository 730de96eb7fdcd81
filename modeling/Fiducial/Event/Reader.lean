import Fiducial.Event.Basic
import Fiducial.Files.Tree
import Fiducial.Json.Reader

/-!
# Event files

An event file has a JSON object on each line; blank lines are passed over.  The events before a
line that is no such object are handed on, and the fault names the line.  Lines are counted from
one, blank ones included.
-/

namespace Fiducial.Event

/-- Events in order, and the fault in which reading them ended. -/
structure Stream where
  events : List Value
  ending : Option Fault

/-- The event on a line that is not blank. -/
def ofLine (path : String) (number : Nat) (line : String) : Except Fault Value :=
  match Json.read (Text.trim line) with
  | .ok (.map es) => .ok (.map es)
  | .ok _ => .error (.eventNotMapping path number)
  | .error .malformed => .error (.badEventLine path number)
  | .error t => .error t.fault

/-- The events of lines numbered from `number`. -/
def ofLines (path : String) (number : Nat) (last : Option Fault) : List String → Stream
  | [] => ⟨[], last⟩
  | line :: rest =>
    if Text.isBlank line then ofLines path (number + 1) last rest
    else
      match ofLine path number line with
      | .error f => ⟨[], some f⟩
      | .ok e =>
        let s := ofLines path (number + 1) last rest
        ⟨e :: s.events, s.ending⟩

/-- The events in the content of a file; what is not UTF-8 ends them. -/
def ofContent (path : String) (data : ByteArray) : Stream :=
  let (lines, whole) := Text.readable data
  ofLines path 1 (if whole then none else some .notUtf8) lines

/-- The events of the file at a path, which is shown as `text`. -/
def load (t : FileTree) (p : Path) (text : String) : Stream :=
  if !t.exists? p then ⟨[], some (.noEventFile text)⟩
  else match t.read p text with
    | .error f => ⟨[], some f⟩
    | .ok data => ofContent text data

end Fiducial.Event
