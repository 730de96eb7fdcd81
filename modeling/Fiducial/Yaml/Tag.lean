import Fiducial.Yaml.Token.Text
import Fiducial.Decimal.Reader

/-!
# Tags of YAML

A tag says what kind of value a node is.  Plain text without a tag gets one from its form, as YAML
1.1 has it: `010` is a number to base eight, `1e3` is text because its exponent has no sign, `yes`
is a truth value, `12:30` is a number to base sixty and `2024-01-02` is a date.
-/

namespace Fiducial.Yaml

inductive Tag where
  | null
  | bool
  | int
  | float
  | binary
  | timestamp
  | omap
  | pairs
  | set
  | str
  | seq
  | map
  | merge
  | value
  | other (name : String)
deriving DecidableEq, Repr

/-- What begins the names of the standard tags. -/
def standardTags : String := "tag:yaml.org,2002:"

def Tag.ofName (name : String) : Tag :=
  let known := [("null", Tag.null), ("bool", bool), ("int", int), ("float", float),
    ("binary", binary), ("timestamp", timestamp), ("omap", omap), ("pairs", pairs), ("set", set),
    ("str", str), ("seq", seq), ("map", map), ("merge", merge), ("value", value)]
  match known.find? fun p => standardTags ++ p.1 = name with
  | some p => p.2
  | none => other name

namespace Plain

def isDigit (c : Char) : Bool := '0' ≤ c && c ≤ '9'

def isDigitOrBar (c : Char) : Bool := isDigit c || c = '_'

def dropSign : List Char → List Char
  | '-' :: r => r
  | '+' :: r => r
  | cs => cs

def isBool (s : String) : Bool :=
  ["yes", "Yes", "YES", "no", "No", "NO", "true", "True", "TRUE", "false", "False", "FALSE", "on",
    "On", "ON", "off", "Off", "OFF"].contains s

def isNull (s : String) : Bool := ["", "~", "null", "Null", "NULL"].contains s

/-- Text without a line feed at its end, which does not count for its form. -/
def dropLineFeed (cs : List Char) : List Char :=
  if cs.getLast? = some '\n' then cs.dropLast else cs

/-- The pieces between colons. -/
def splitColons : List Char → List (List Char)
  | [] => [[]]
  | ':' :: r => [] :: splitColons r
  | c :: r =>
    match splitColons r with
    | p :: ps => (c :: p) :: ps
    | [] => [[c]]

/-- A digit to base sixty, in one or two decimal digits. -/
def isSixtieth : List Char → Bool
  | [a] => isDigit a
  | [a, b] => '0' ≤ a && a ≤ '5' && isDigit b
  | _ => false

/-- A number to base sixty of at least two digits, the first of which is unbounded. -/
def isSexagesimal (first : Char → Bool) (cs : List Char) : Bool :=
  match splitColons cs with
  | (d :: ds) :: p :: ps => first d && ds.all isDigitOrBar && (p :: ps).all isSixtieth
  | _ => false

def isHexOrBar (c : Char) : Bool := (hexDigit? c).isSome || c = '_'

def isInt (cs : List Char) : Bool :=
  match dropSign cs with
  | ['0'] => true
  | '0' :: 'b' :: r => r ≠ [] && r.all fun c => c = '0' || c = '1' || c = '_'
  | '0' :: 'x' :: r => r ≠ [] && r.all isHexOrBar
  | '0' :: r => r.all fun c => ('0' ≤ c && c ≤ '7') || c = '_'
  | d :: r =>
    (isDigit d && r.all isDigitOrBar) ||
      isSexagesimal (fun c => isDigit c && c ≠ '0') (dropSign cs)
  | [] => false

/-- Nothing, or an exponent with a sign. -/
def isExponent : List Char → Bool
  | [] => true
  | e :: s :: r =>
    (e = 'e' || e = 'E') && (s = '+' || s = '-') && r ≠ [] && r.all isDigit
  | _ => false

/-- What stands before the first point, and what after it. -/
def splitPoint (cs : List Char) : Option (List Char × List Char) :=
  match cs.dropWhile (· ≠ '.') with
  | _ :: r => some (cs.takeWhile (· ≠ '.'), r)
  | [] => none

def isFloat (cs : List Char) : Bool :=
  let body := dropSign cs
  let word := String.ofList body
  if [".inf", ".Inf", ".INF"].contains word then true
  else if [".nan", ".NaN", ".NAN"].contains word then body = cs
  else
    match splitPoint body with
    | none => false
    | some ([], r) =>
      body = cs && r.head?.any isDigit && isExponent (r.dropWhile isDigitOrBar)
    | some (d :: ds, r) =>
      (isDigit d && ds.all isDigitOrBar && isExponent (r.dropWhile isDigitOrBar)) ||
        (isSexagesimal isDigit (d :: ds) && r.all isDigitOrBar)

end Plain

/-- The parts of a date, or of a date and time, as they are written. -/
structure Stamp where
  year : List Char
  month : List Char
  day : List Char
  /-- Hour, minute, second and the digits of a fraction. -/
  clock : Option (List Char × List Char × List Char × List Char)
  /-- Sign, hours and minutes; universal time has no sign. -/
  zone : Option (Option Char × List Char × List Char)

namespace Stamp

/-- Between `least` and `most` digits at the beginning. -/
def digits (least most : Nat) (cs : List Char) : Option (List Char × List Char) :=
  let ds := (cs.takeWhile Plain.isDigit).take most
  if ds.length < least then none else some (ds, cs.drop ds.length)

def expect (c : Char) : List Char → Option (List Char)
  | d :: r => if c = d then some r else none
  | [] => none

def isBlank (c : Char) : Bool := c = ' ' || c = '\t'

def zone? (cs : List Char) : Option (Option (Option Char × List Char × List Char)) :=
  match cs.dropWhile isBlank with
  | [] => if cs = [] then some none else none
  | ['Z'] => some (some (none, [], []))
  | s :: r =>
    if s = '+' || s = '-' then do
      let (hours, r) ← digits 1 2 r
      if r = [] then return some (some s, hours, [])
      else
        let (minutes, r) ← digits 2 2 (← expect ':' r)
        if r = [] then return some (some s, hours, minutes) else none
    else none

/-- The letter or the blanks between date and time. -/
def separator? : List Char → Option (List Char)
  | 'T' :: r => some r
  | 't' :: r => some r
  | c :: r => if isBlank c then some (r.dropWhile isBlank) else none
  | [] => none

def ofLine? (cs : List Char) : Option Stamp := do
  let (year, r) ← digits 4 4 cs
  let (month, r) ← digits 1 2 (← expect '-' r)
  let (day, r) ← digits 1 2 (← expect '-' r)
  if r = [] then return ⟨year, month, day, none, none⟩
  else
    let (hour, r) ← digits 1 2 (← separator? r)
    let (minute, r) ← digits 2 2 (← expect ':' r)
    let (second, r) ← digits 2 2 (← expect ':' r)
    let (fraction, r) := match r with
      | '.' :: r => (r.takeWhile Plain.isDigit, r.dropWhile Plain.isDigit)
      | r => ([], r)
    let zone ← zone? r
    return ⟨year, month, day, some (hour, minute, second, fraction), zone⟩

/-- The parts of a text that may have a line feed at its end. -/
def parse? (cs : List Char) : Option Stamp := ofLine? (Plain.dropLineFeed cs)

/-- Plain text is a date alone only with two digits for month and day. -/
def isPlain (cs : List Char) : Bool :=
  match ofLine? cs with
  | none => false
  | some s => s.clock.isSome || (s.month.length = 2 && s.day.length = 2)

end Stamp

/-- The tag of text without a final line feed. -/
def Tag.ofLine (s : String) : Tag :=
  let cs := s.toList
  if Plain.isBool s then bool
  else if Plain.isFloat cs then float
  else if Plain.isInt cs then int
  else if s = "<<" then merge
  else if Plain.isNull s then null
  else if Stamp.isPlain cs then timestamp
  else if s = "=" then value
  else str

/-- The tag of plain text, or of text that is to be taken as such. -/
def Tag.ofPlain (s : String) : Tag :=
  if s = "\n" then str else ofLine (String.ofList (Plain.dropLineFeed s.toList))

end Fiducial.Yaml
