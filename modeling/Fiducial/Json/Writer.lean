import Fiducial.Value.Show

/-!
# Writing JSON

Values are written on one line, with or without blanks after separators.  Only quotes, backslashes
and control characters are written as escapes, so every line break in a text is one, and what is
written never breaks the line.
-/

namespace Fiducial.Json

def escapeChar (c : Char) : String :=
  if c = '"' then "\\\""
  else if c = '\\' then "\\\\"
  else if c = '\n' then "\\n"
  else if c = '\r' then "\\r"
  else if c = '\t' then "\\t"
  else if c.toNat = 8 then "\\b"
  else if c.toNat = 12 then "\\f"
  else if c.toNat < 0x20 then "\\u" ++ Text.hexDigits 4 c.toNat
  else String.singleton c

def quoted (s : String) : String :=
  "\"" ++ String.join (s.toList.map escapeChar) ++ "\""

/-- A double as a number; the three that are not numbers have names. -/
def numberText (x : Float) : String :=
  match Binary.decode x with
  | .nan => "NaN"
  | .infinite negative => if negative then "-Infinity" else "Infinity"
  | .finite .. => Binary.shortestText x

/-- How members, and keys and values, are set apart. -/
structure Style where
  comma : String
  colon : String

def compact : Style := ⟨",", ":"⟩

def spaced : Style := ⟨", ", ": "⟩

mutual

/-- The text of a value; a key, and whatever JSON has no form for, is written as text. -/
def write (s : Style) : Value → String
  | .null => "null"
  | .bool b => if b then "true" else "false"
  | .int n => intText n
  | .float x => numberText x
  | .str t => quoted t
  | .list xs => "[" ++ s.comma.intercalate (writeItems s xs) ++ "]"
  | .map es => "\x7b" ++ s.comma.intercalate (writeEntries s es) ++ "\x7d"
  | v => quoted v.text

def writeItems (s : Style) : List Value → List String
  | [] => []
  | x :: xs => write s x :: writeItems s xs

def writeEntries (s : Style) : List (Value × Value) → List String
  | [] => []
  | (k, v) :: es => (quoted k.text ++ s.colon ++ write s v) :: writeEntries s es

end

end Fiducial.Json
