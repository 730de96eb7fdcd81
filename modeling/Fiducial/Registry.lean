import Fiducial.Landmark

/-!
# The landmarks of a map

A registry holds the landmarks of one map in the order in which they were given, no two of them with
the same id.  It is built whole and replaced whole.
-/

namespace Fiducial

structure Registry (α : Type) where
  landmarks : List (Landmark α)

namespace Registry

variable {α : Type}

def empty : Registry α := ⟨[]⟩

def size (r : Registry α) : Nat := r.landmarks.length

def lookup (r : Registry α) (id : String) : Option (Landmark α) := r.landmarks.find? (·.id = id)

def contains (r : Registry α) (id : String) : Bool := r.landmarks.any (·.id = id)

/-- The ids in the order of their code points. -/
def ids (r : Registry α) : List String :=
  (r.landmarks.map (·.id)).mergeSort fun a b => decide (a ≤ b)

/-- The registry with one more landmark, whose id must be new. -/
def add (r : Registry α) (l : Landmark α) : Except Fault (Registry α) :=
  if r.contains l.id then .error (.duplicateLandmark l.id) else .ok ⟨r.landmarks ++ [l]⟩

/-- The registry of some landmarks; the first one that repeats an id is at fault. -/
def build (landmarks : List (Landmark α)) : Except Fault (Registry α) := landmarks.foldlM add empty

/-- The registry of landmarks that are looked at one by one; the first trouble decides. -/
def collect (landmarks : List (Except Fault (Landmark α))) : Except Fault (Registry α) :=
  landmarks.foldlM (fun r l => l >>= r.add) empty

end Registry
end Fiducial
