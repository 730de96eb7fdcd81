import Fiducial.Value.Basic
import Fiducial.Decimal.Layout
import Fiducial.Text.Quoted

/-!
# Values as text

`Value.text` is how a value reads as a name: text stands for itself, everything else for its literal
form.  `Value.literal` is the literal form, with text in quotes.  Ids and frame names are made by
`Value.text`, so the integer `5`, the text `"5"` and the double `5.0` name `5`, `5` and `5.0`.
-/

namespace Fiducial

namespace Moment

/-- The offset as hours and minutes with a sign. -/
def offsetText (minutes : Int) : String :=
  (if minutes < 0 then "-" else "+") ++ paddedText 2 (minutes.natAbs / 60) ++ ":" ++
    paddedText 2 (minutes.natAbs % 60)

def dateText (year month day : Nat) : String :=
  paddedText 4 year ++ "-" ++ paddedText 2 month ++ "-" ++ paddedText 2 day

def text (m : Moment) : String :=
  dateText m.year m.month m.day ++ " " ++ paddedText 2 m.hour ++ ":" ++ paddedText 2 m.minute ++
    ":" ++ paddedText 2 m.second ++
    (if m.microsecond = 0 then "" else "." ++ paddedText 6 m.microsecond) ++
    (match m.offset with | none => "" | some o => offsetText o)

/-- The zone of an offset; a negative one is shown as a day less and the seconds that remain. -/
def zoneLiteral (minutes : Int) : String :=
  if minutes = 0 then "datetime.timezone.utc"
  else
    let span := if minutes < 0 then
        s!"days=-1, seconds={digitText (86400 - 60 * minutes.natAbs)}"
      else s!"seconds={digitText (60 * minutes.natAbs)}"
    "datetime.timezone(datetime.timedelta(" ++ span ++ "))"

def literal (m : Moment) : String :=
  let seconds := if m.second = 0 ∧ m.microsecond = 0 then [] else [m.second]
  let micros := if m.microsecond = 0 then [] else [m.microsecond]
  let fields := [m.year, m.month, m.day, m.hour, m.minute] ++ seconds ++ micros
  let zone := match m.offset with
    | none => []
    | some o => ["tzinfo=" ++ zoneLiteral o]
  "datetime.datetime(" ++ ", ".intercalate (fields.map digitText ++ zone) ++ ")"

end Moment

def intText (n : Int) : String :=
  if n < 0 then "-" ++ digitText n.natAbs else digitText n.natAbs

namespace Value

/-- A byte string between quotes, with the bytes that are not printable ASCII as escapes. -/
def bytesLiteral (data : List UInt8) : String :=
  let chars := data.map fun b => Char.ofNat b.toNat
  let q := Text.quoteFor (String.ofList chars)
  let one := fun c : Char =>
    if c.toNat < 0x80 then Text.escapeChar q c else "\\x" ++ Text.hexDigits 2 c.toNat
  "b" ++ String.singleton q ++ String.join (chars.map one) ++ String.singleton q

mutual

def literal : Value → String
  | null => "None"
  | bool b => if b then "True" else "False"
  | int n => intText n
  | float x => Binary.shortestText x
  | str s => Text.quoted s
  | list xs => "[" ++ ", ".intercalate (literals xs) ++ "]"
  | map es => "\x7b" ++ ", ".intercalate (entryLiterals es) ++ "\x7d"
  | bytes d => bytesLiteral d
  | date y m d =>
    "datetime.date(" ++ ", ".intercalate ([y, m, d].map digitText) ++ ")"
  | moment m => m.literal
  | set xs => if xs.isEmpty then "set()" else "\x7b" ++ ", ".intercalate (literals xs) ++ "\x7d"
  | again isMap => if isMap then "\x7b...\x7d" else "[...]"

def literals : List Value → List String
  | [] => []
  | v :: r => literal v :: literals r

def entryLiterals : List (Value × Value) → List String
  | [] => []
  | (k, v) :: r => (literal k ++ ": " ++ literal v) :: entryLiterals r

end

def text : Value → String
  | str s => s
  | date y m d => Moment.dateText y m d
  | moment m => m.text
  | v => v.literal

end Value
end Fiducial
