import Fiducial.Files.Path
import Fiducial.Fault

/-!
# A tree of files

What a program sees of a file system: which paths are directories, and the bytes of the files.  The
root is always a directory.  Reading and writing fail in the ways that a file system has, and an
operation that fails changes nothing.
-/

namespace Fiducial

inductive FileNode where
  | directory
  | file (data : ByteArray)

/-- Directories and files by their paths. -/
structure FileTree where
  entries : List (Path × FileNode)

namespace FileTree

def empty : FileTree := ⟨[]⟩

def node? (t : FileTree) (p : Path) : Option FileNode :=
  if p = [] then some .directory else t.entries.lookup p

def set (t : FileTree) (p : Path) (n : FileNode) : FileTree :=
  ⟨(p, n) :: t.entries.filter (·.1 ≠ p)⟩

def remove (t : FileTree) (p : Path) : FileTree := ⟨t.entries.filter (·.1 ≠ p)⟩

/-- The content of a file, if the path is one. -/
def file? (t : FileTree) (p : Path) : Option ByteArray :=
  match t.node? p with
  | some (.file d) => some d
  | _ => none

def exists? (t : FileTree) (p : Path) : Bool := (t.node? p).isSome

/-- The path to which the names lead step by step; each step starts in a directory. -/
def follow? (t : FileTree) (start : Path) (names : List String) : Option Path :=
  names.foldlM (fun p n => match t.node? p with
    | some .directory => some (if n = ".." then p.dropLast else p ++ [n])
    | _ => none) start

/-- Whether some path above is a file, so that the path cannot be. -/
def isBlocked (t : FileTree) (p : Path) : Bool :=
  (List.range p.length).any fun k => match t.node? (p.take k) with
    | some (.file _) => true
    | _ => false

/-- The content of the file at a path, which is shown as `text`. -/
def read (t : FileTree) (p : Path) (text : String) : Except Fault ByteArray :=
  match t.node? p with
  | some (.file d) => .ok d
  | some .directory => .error (.isDirectory text)
  | none => .error (if t.isBlocked p then .notDirectory text else .missingFile text)

/-- The tree with all directories from the root to a path. -/
def makeDirectories (t : FileTree) (p : Path) : Except Fault FileTree :=
  match t.node? p with
  | some .directory => .ok t
  | some (.file _) => .error (.fileExists p.text)
  | none =>
    if t.isBlocked p then .error (.notDirectory p.text)
    else .ok ((List.range (p.length + 1)).foldl (fun t k =>
      if t.exists? (p.take k) then t else t.set (p.take k) .directory) t)

/-- The tree with a file of this content, in a directory that is there. -/
def write (t : FileTree) (p : Path) (data : ByteArray) : Except Fault FileTree :=
  match t.node? p, t.node? p.parent with
  | some .directory, _ => .error (.isDirectory p.text)
  | _, some .directory => .ok (t.set p (.file data))
  | _, _ => .error (if t.isBlocked p then .notDirectory p.text else .missingFile p.text)

end FileTree
end Fiducial
