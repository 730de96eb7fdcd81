import Fiducial.Fuser.Basic

/-!
# Reports

A cycle of the localizer is reported with its outcomes and a status.  The status is good as soon as
any marker was detected, whether or not it was accepted.
-/

namespace Fiducial

inductive StatusLevel where
  | ok
  | warn
  | error
deriving DecidableEq, Repr

namespace StatusLevel

def name : StatusLevel → String
  | ok => "OK"
  | warn => "WARN"
  | error => "ERROR"

def code : StatusLevel → Nat
  | ok => 0
  | warn => 1
  | error => 2

end StatusLevel

structure Status where
  level : StatusLevel
  name : String
  message : String
  values : List (String × String)
deriving Repr

namespace Status

/-- The status of a cycle with so many markers detected and poses accepted. -/
def ofCounts (name : String) (detected accepted : Int) : Status :=
  let values := [("Number of Detected AR Tags", intText detected),
    ("Number of Accepted Poses", intText accepted)]
  if 0 < detected then
    ⟨.ok, "localization: " ++ name,
      "AR tags detected. The number of tags: " ++ intText detected, values⟩
  else ⟨.warn, "localization: " ++ name, "No AR tags detected.", values⟩

end Status

structure Report (α : Type) where
  stamp : α
  detected : Int
  accepted : Nat
  outcomes : List (Outcome α)
  status : Status

end Fiducial
