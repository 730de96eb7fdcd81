import Fiducial.Text.Lines

/-!
# Paths

A path is a list of names from the root.  `Path.resolve` reads a text against a working directory
and follows the names for this directory and for the one above; `Path.plain` only drops empty
names and the name for this directory, which is how a path is shown that was not resolved.
-/

namespace Fiducial

/-- Names from the root. -/
abbrev Path := List String

namespace Path

/-- The pieces between slashes. -/
def pieces : List Char → List (List Char)
  | [] => [[]]
  | '/' :: r => [] :: pieces r
  | c :: r =>
    match pieces r with
    | p :: ps => (c :: p) :: ps
    | [] => [[c]]

def isAbsolute (s : String) : Bool := s.toList.head? = some '/'

/-- The names in a text that mean something. -/
def names (s : String) : List String :=
  ((pieces s.toList).map String.ofList).filter fun n => n ≠ "" && n ≠ "."

/-- A path without steps back. -/
def collapse (names : List String) : Path :=
  (names.foldl (fun (acc : List String) n => if n = ".." then acc.tail else n :: acc) []).reverse

/-- The path of a text in a working directory. -/
def resolve (cwd : Path) (s : String) : Path :=
  collapse (if isAbsolute s then names s else cwd ++ names s)

def text (p : Path) : String := "/" ++ "/".intercalate p

/-- A text with needless slashes and names left out. -/
def plain (s : String) : String :=
  let ns := names s
  if isAbsolute s then text ns else if ns = [] then "." else "/".intercalate ns

/-- The directory that holds a path. -/
def parent (p : Path) : Path := p.dropLast

/-- The last name from its last point on, unless nothing stands before or after the point. -/
def suffix (p : Path) : String :=
  let name := (p.getLastD "").toList
  let tail := (name.reverse.takeWhile (· ≠ '.')).reverse
  if tail.length + 1 < name.length ∧ tail ≠ [] then String.ofList ('.' :: tail) else ""

end Path
end Fiducial
