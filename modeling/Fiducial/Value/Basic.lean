import Fiducial.Binary

/-!
# Values of data files

Configuration, landmark maps and events arrive as data whose shape is not known beforehand.  A
`Value` is such a datum: the values of JSON together with the calendar dates, byte strings and
sets that YAML adds.  Mappings keep their entries in the order in which the keys first came;
`Value.insert` replaces the entry of an equal key where it stands.  A list or mapping of YAML may
stand inside itself; there it is a leaf that shows no members.
-/

namespace Fiducial

namespace Calendar

def isLeapYear (y : Nat) : Bool := y % 4 = 0 && (y % 100 ≠ 0 || y % 400 = 0)

def daysIn (y m : Nat) : Nat :=
  if m = 2 then (if isLeapYear y then 29 else 28)
  else if [4, 6, 9, 11].contains m then 30
  else 31

/-- The number of days up to a date, from the year one. -/
def dayNumber (y m d : Nat) : Nat :=
  let years := y - 1
  365 * years + years / 4 - years / 100 + years / 400 +
    (List.range (m - 1)).foldl (fun days k => days + daysIn y (k + 1)) d

end Calendar

/-- A point of the calendar; the offset of its clock from universal time is in minutes. -/
structure Moment where
  year : Nat
  month : Nat
  day : Nat
  hour : Nat
  minute : Nat
  second : Nat
  microsecond : Nat
  offset : Option Int
deriving DecidableEq, Repr

/-- The microseconds up to a point of the calendar, by universal time if it has an offset. -/
def Moment.instant (m : Moment) : Int :=
  let hours := 24 * Calendar.dayNumber m.year m.month m.day + m.hour
  let minutes : Int := (60 * hours + m.minute : Nat) - m.offset.getD 0
  1000000 * (60 * minutes + m.second) + m.microsecond

inductive Value where
  | null
  | bool (b : Bool)
  | int (n : Int)
  | float (x : Float)
  | str (s : String)
  | list (items : List Value)
  | map (entries : List (Value × Value))
  | bytes (data : List UInt8)
  | date (year month day : Nat)
  | moment (m : Moment)
  /-- The members, in the order in which the set is gone through. -/
  | set (items : List Value)
  /-- A mapping, or else a list, that the value stands inside of. -/
  | again (isMap : Bool)
deriving Inhabited, Repr

namespace Value

/-- The name of the kind of a value, as messages show it. -/
def kindName : Value → String
  | null => "NoneType"
  | bool _ => "bool"
  | int _ => "int"
  | float _ => "float"
  | str _ => "str"
  | list _ => "list"
  | map _ => "dict"
  | bytes _ => "bytes"
  | date .. => "date"
  | moment _ => "datetime"
  | set _ => "set"
  | again isMap => if isMap then "dict" else "list"

/-- The name of the kind of a value with that of the calendar in front. -/
def fullKindName (v : Value) : String :=
  match v with
  | date .. | moment _ => "datetime." ++ v.kindName
  | v => v.kindName

/-- Whether a value can be the key of a mapping. -/
def isKey : Value → Bool
  | list _ | map _ | set _ | again _ => false
  | _ => true

/-- The whole number that a Boolean or an integer counts as. -/
def whole? : Value → Option Int
  | bool b => some (if b then 1 else 0)
  | int n => some n
  | _ => none

/-- Whether a double is exactly an integer `n`. -/
def floatIs (x : Float) (n : Int) : Bool :=
  match Binary.decode x with
  | .finite negative m q =>
    let signed : Int := if negative then -m else m
    if 0 ≤ q then signed * Nat.pow 2 q.toNat = n else signed = n * Nat.pow 2 (-q).toNat
  | _ => false

/-- Equality of keys: numbers are equal by value, whatever their kind. -/
def sameKey : Value → Value → Bool
  | str a, str b => a = b
  | float x, float y => x == y
  | float x, b => match b.whole? with
    | some n => floatIs x n
    | none => false
  | a, float y => match a.whole? with
    | some n => floatIs y n
    | none => false
  | null, null => true
  | bytes a, bytes b => a = b
  | date y m d, date y' m' d' => y = y' && m = m' && d = d'
  | moment a, moment b => a.offset.isSome = b.offset.isSome && a.instant = b.instant
  | a, b => match a.whole?, b.whole? with
    | some n, some k => n = k
    | _, _ => false

/-- The entries with `key` bound to `v`; an equal key keeps its place and spelling. -/
def insert (key v : Value) : List (Value × Value) → List (Value × Value)
  | [] => [(key, v)]
  | (k, w) :: r => if sameKey k key then (k, v) :: r else (k, w) :: insert key v r

def ofEntries (entries : List (Value × Value)) : List (Value × Value) :=
  entries.foldl (fun acc e => insert e.1 e.2 acc) []

/-- The value bound to a text key. -/
def lookup (key : String) : List (Value × Value) → Option Value
  | [] => none
  | (.str k, v) :: r => if k = key then some v else lookup key r
  | _ :: r => lookup key r

/-- Whether a value counts as present: neither nothing, false, zero nor empty. -/
def isTruthy : Value → Bool
  | null => false
  | bool b => b
  | int n => n ≠ 0
  | float x => !(x == 0.0)
  | str s => s ≠ ""
  | list xs => !xs.isEmpty
  | map es => !es.isEmpty
  | bytes d => !d.isEmpty
  | set xs => !xs.isEmpty
  | date .. | moment _ | again _ => true

end Value
end Fiducial
