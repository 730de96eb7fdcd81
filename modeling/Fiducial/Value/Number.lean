import Fiducial.Fault
import Fiducial.Decimal.Reader

/-!
# Numbers out of values

Data is asked for a number in two ways: as a double, which every number, truth value and numeric
text has, and as a whole number, for which a double is cut at its point.
-/

namespace Fiducial.Value

/-- The characters of a byte string, one a byte. -/
def latinText (data : List UInt8) : String := String.ofList (data.map fun b => Char.ofNat b.toNat)

/-- Byte strings hold numbers in ASCII only. -/
def bytesFloat? (data : List UInt8) : Option Float :=
  if data.all (· < 0x80) then Decimal.readFloat? (latinText data) else none

/-- The double that a value stands for. -/
def toFloat (v : Value) : Except Fault Float :=
  match v with
  | bool b => .ok (if b then 1.0 else 0.0)
  | int n => match Binary.ofInt? n with
    | some x => .ok x
    | none => .error .tooLarge
  | float x => .ok x
  | str s => match Decimal.readFloat? s with
    | some x => .ok x
    | none => .error (.badNumber s v.literal)
  | bytes d => match bytesFloat? d with
    | some x => .ok x
    | none => .error (.badNumber (latinText d) v.literal)
  | v => .error (.notNumber v)

/-- A finite double without what follows its point. -/
def truncate (negative : Bool) (m : Nat) (q : Int) : Int :=
  let n := if 0 ≤ q then m * Nat.pow 2 q.toNat else m / Nat.pow 2 (-q).toNat
  if negative then -(n : Int) else n

/-- The whole number that a value stands for. -/
def toInt (v : Value) : Except Fault Int :=
  match v with
  | bool b => .ok (if b then 1 else 0)
  | int n => .ok n
  | float x => match Binary.decode x with
    | .nan => .error (.badValue "cannot convert float NaN to integer")
    | .infinite _ => .error .overflow
    | .finite negative m q => .ok (truncate negative m q)
  | str s => match Decimal.readInt? s with
    | some n => .ok n
    | none =>
      .error (.badValue ("invalid literal for int() with base 10: " ++ v.literal))
  | v => .error (.wrongType
      ("int() argument must be a string, a bytes-like object or a real number, not '" ++
        v.kindName ++ "'"))

end Fiducial.Value
