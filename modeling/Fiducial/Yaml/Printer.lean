import Fiducial.Json.Writer
import Fiducial.Yaml.Tag

/-!
# Writing YAML

Lists and mappings are written as blocks, one member a line; the members of a mapping keep their
order.  Text stands plain where it reads back as text, and otherwise between quotes.
-/

namespace Fiducial.Yaml

/-- Whether text made of letters, digits and low lines reads back as itself without quotes. -/
def isPlainText (s : String) : Bool :=
  s.toList.all (fun c => c.isAlphanum || c = '_') && Tag.ofPlain s = .str

def isPrintableAscii (c : Char) : Bool := 0x20 ≤ c.toNat && c.toNat < 0x7f

/-- Text between single quotes, or between double quotes when some character needs an escape. -/
def betweenQuotes (s : String) : String :=
  if s.toList.all isPrintableAscii then
    "'" ++ String.join (s.toList.map fun c => if c = '\'' then "''" else String.singleton c) ++ "'"
  else Json.quoted s

/-- A double with a point in it, without which an exponent would make it text. -/
def floatText (x : Float) : String :=
  match Binary.decode x with
  | .nan => ".nan"
  | .infinite negative => if negative then "-.inf" else ".inf"
  | .finite .. =>
    let cs := (Binary.shortestText x).toList
    if cs.contains '.' then String.ofList cs
    else String.ofList (cs.takeWhile (· ≠ 'e') ++ ".0".toList ++ cs.dropWhile (· ≠ 'e'))

/-- A value on one line; lists and mappings have this form only when they are empty. -/
def scalarText : Value → String
  | .null => "null"
  | .bool b => if b then "true" else "false"
  | .int n => intText n
  | .float x => floatText x
  | .list _ => "[]"
  | .map _ => "\x7b\x7d"
  | .str s => if isPlainText s then s else betweenQuotes s
  | v => betweenQuotes v.text

/-- The lines of a member of a list: the first carries the mark and the others are moved in. -/
def markLines : List String → List String
  | [] => []
  | l :: ls => ("- " ++ l) :: ls.map ("  " ++ ·)

/-- The lines of a member of a mapping under its key.  Lists start below the key itself. -/
def keyLines (key : String) (v : Value) (lines : List String) : List String :=
  match v with
  | .list (_ :: _) => (key ++ ":") :: lines
  | .map (_ :: _) => (key ++ ":") :: lines.map ("  " ++ ·)
  | _ => lines.map (key ++ ": " ++ ·)

mutual

/-- The lines of a value as a block. -/
def linesOf : Value → List String
  | .list (x :: xs) => itemLines (x :: xs)
  | .map (e :: es) => entryLines (e :: es)
  | v => [scalarText v]

def itemLines : List Value → List String
  | [] => []
  | x :: xs => markLines (linesOf x) ++ itemLines xs

def entryLines : List (Value × Value) → List String
  | [] => []
  | (k, v) :: es => keyLines (scalarText k) v (linesOf v) ++ entryLines es

end

/-- The text of a document. -/
def print (v : Value) : String := String.join ((linesOf v).map (· ++ "\n"))

end Fiducial.Yaml
