import Fiducial.Log
import Fiducial.Text.Blank

/-!
# Levels by name

A level of severity is given as a number or by its name in any case, with blanks around it.  The
logger of the localizer gets its handler, and a level, when it is first asked for.
-/

namespace Fiducial.Log

def levelNames : List (String × Int) :=
  [("CRITICAL", 50), ("FATAL", 50), ("ERROR", 40), ("WARN", 30), ("WARNING", 30), ("INFO", 20),
    ("DEBUG", 10), ("NOTSET", 0)]

/-- The capital of a letter, also for the two letters outside of ASCII whose capital lies in it. -/
def capital (c : Char) : Char :=
  if c = 'ı' then 'I' else if c = 'ſ' then 'S' else c.toUpper

def severityOf (v : Value) : Except Fault Int :=
  match v.whole? with
  | some n => .ok n
  | none =>
    match levelNames.lookup (String.ofList ((Text.trim v.text).toList.map capital)) with
    | some n => .ok n
    | none => .error (.badLogLevel v)

/-- The settings of a logger. -/
structure Logger where
  level : Int
  handlers : Nat
deriving DecidableEq, Repr

def loggerName : String := "landmark_localizer"

def format : String := "%(asctime)s %(levelname)s %(name)s: %(message)s"

def Logger.new : Logger := ⟨0, 0⟩

/-- The logger after it was asked for with a level, or with none. -/
def Logger.request (l : Logger) (level : Option Value) : Except Fault Unit × Logger :=
  let l := if l.handlers = 0 then ⟨20, 1⟩ else l
  match level with
  | none => (.ok (), l)
  | some v =>
    match severityOf v with
    | .ok n => (.ok (), { l with level := n })
    | .error f => (.error f, l)

/-- The entries that a severity lets through. -/
def above (severity : Int) (es : List Entry) : List Entry :=
  es.filter fun e => severity ≤ e.level.severity

end Fiducial.Log
