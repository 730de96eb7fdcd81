import Fiducial.Fault

/-!
# Log entries

What the parts of the localizer report while they work.  An entry that reports a fault ends with its
wording.
-/

namespace Fiducial.Log

inductive Level where
  | debug
  | info
  | warning
  | error
deriving DecidableEq, Repr

def Level.name : Level → String
  | debug => "DEBUG"
  | info => "INFO"
  | warning => "WARNING"
  | error => "ERROR"

/-- The severity of a level. -/
def Level.severity : Level → Nat
  | debug => 10
  | info => 20
  | warning => 30
  | error => 40

structure Entry where
  level : Level
  text : String
  cause : Option Fault := none

def Entry.debug (text : String) : Entry := ⟨.debug, text, none⟩

def Entry.info (text : String) : Entry := ⟨.info, text, none⟩

def Entry.warning (text : String) : Entry := ⟨.warning, text, none⟩

/-- A warning about a fault, whose wording follows the text. -/
def Entry.faultWarning (text : String) (cause : Fault) : Entry := ⟨.warning, text, some cause⟩

end Fiducial.Log
