/-!
# Snapshot cells

A cell holds at most one value and counts the writes.  Writing replaces the whole value.  A write
that is meant to happen once succeeds only while there is no value, whatever the count says.
-/

namespace Fiducial

structure Cell (α : Type) where
  value : Option α
  version : Nat
deriving Repr

namespace Cell

variable {α : Type}

def new (initial : Option α) : Cell α := ⟨initial, if initial.isSome then 1 else 0⟩

def set (c : Cell α) (v : Option α) : Cell α := ⟨v, c.version + 1⟩

/-- Writes if there is no value yet, and says whether it did. -/
def setOnce (c : Cell α) (v : Option α) : Bool × Cell α :=
  if c.value.isSome then (false, c) else (true, c.set v)

end Cell
end Fiducial
