import Fiducial.Fault

/-!
# Names out of values

Ids, frame names and the types of events are the texts of values.  A whole number of more than 4300
digits is not written out, and neither is anything that holds one.
-/

namespace Fiducial.Value

mutual

/-- Whether every whole number in a value is short enough to be written. -/
def isWritable : Value → Bool
  | int n => n.natAbs < Nat.pow 10 Decimal.maxDigits
  | list xs => areWritable xs
  | set xs => areWritable xs
  | map es => entriesAreWritable es
  | _ => true

def areWritable : List Value → Bool
  | [] => true
  | v :: r => isWritable v && areWritable r

def entriesAreWritable : List (Value × Value) → Bool
  | [] => true
  | (k, v) :: r => isWritable k && isWritable v && entriesAreWritable r

end

/-- The fault of a number that is too long to be written. -/
def tooLong : Fault :=
  .badValue ("Exceeds the limit (4300 digits) for integer string conversion; " ++
    "use sys.set_int_max_str_digits() to increase the limit")

/-- The text of a value, if it can be written. -/
def name (v : Value) : Except Fault String := if v.isWritable then .ok v.text else .error tooLong

end Fiducial.Value
