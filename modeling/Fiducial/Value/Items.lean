import Fiducial.Value.Number

/-!
# Members of a value

A field that holds many things may be given as a list, as a text (its characters), as a mapping (its
keys), as a byte string or as a set.  A set leaves open in which order its members are gone through;
they are given in the order in which the value holds them.
-/

namespace Fiducial.Value

def items (v : Value) : Except Fault (List Value) :=
  match v with
  | list xs => .ok xs
  | set xs => .ok xs
  | str s => .ok (s.toList.map fun c => str (String.singleton c))
  | map es => .ok (es.map (·.1))
  | bytes d => .ok (d.map fun b => int b.toNat)
  | v => .error (.wrongType ("'" ++ v.kindName ++ "' object is not iterable"))

/-- Members of a value where nothing, zero or something empty has none. -/
def itemsOrNone (v : Value) : Except Fault (List Value) :=
  if v.isTruthy then v.items else .ok []

end Fiducial.Value
