import Fiducial.Yaml.Scalar

/-!
# Values of YAML

Each tag says how the text or the members of a node become a value.  A mapping with a merge key
takes over the entries of other mappings; its own entries count more, and of several mappings the
first counts most.  A node whose kind does not fit its tag, or whose tag is unknown, has no value.

A list or mapping that stands inside itself has a value without end.  It is given twice over, so
that its members can be looked into, and then as a leaf.
-/

namespace Fiducial.Yaml

namespace Node

/-- The list or mapping that a node points to, among the nodes with names. -/
def resolve (named : List Node) : Node → Node
  | .again t i => (named.find? fun node => node.number? = some i).getD (.again t i)
  | node => node

/-- The entries of the mappings that are merged, those that count least first. -/
def mergedFrom (named : List Node) (flatten : Node → Except Fault (List (Node × Node)))
    (node : Node) : Except Fault (List (Node × Node)) :=
  match resolve named node with
  | .map t i es => flatten (.map t i es)
  | .list _ _ xs => do
    let all ← xs.mapM fun x => match resolve named x with
      | .map t i es => flatten (.map t i es)
      | _ => refuse
    return all.reverse.flatten
  | _ => refuse

/-- The entries of a mapping with its merge keys followed; `n` bounds how deep they lead.  Those of
`opened` are being followed already. -/
def flatten (named : List Node) : Nat → List Nat → Node → Except Fault (List (Node × Node))
  | 0, _, _ => .error (.tooDeep "maximum recursion depth exceeded")
  | n + 1, opened, .map _ i es => do
    let merges := if opened.contains i then [] else es.filter fun e => e.1.tag = .merge
    let merged ← merges.mapM fun e => mergedFrom named (flatten named n (i :: opened)) e.2
    let own := (es.filter fun e => e.1.tag ≠ .merge).map fun e => match e.1 with
      | .scalar .value s => (.scalar .str s, e.2)
      | _ => e
    return merged.flatten ++ own
  | _ + 1, _, _ => refuse

/-- The text of a scalar; a mapping may give it under an equals sign. -/
def textOf (named : List Node) : Nat → Node → Except Fault String
  | _, .scalar _ s => .ok s
  | 0, _ => .error (.tooDeep "maximum recursion depth exceeded")
  | n + 1, node =>
    match resolve named node with
    | .map _ _ es =>
      match es.find? fun e => e.1.tag = .value with
      | some e => textOf named n e.2
      | none => refuse
    | _ => refuse

/-- The only entry of a mapping. -/
def pairOf (named : List Node) (node : Node) : Except Fault (Node × Node) :=
  match resolve named node with
  | .map _ _ [e] => .ok e
  | _ => refuse

/-- The items of a list. -/
def itemsOf : Node → Except Fault (List Node)
  | .list _ _ xs => .ok xs
  | _ => refuse

/-- Whether a value with this tag holds others. -/
def holdsOthers : Tag → Bool
  | .seq | .map | .set | .omap | .pairs => true
  | _ => false

section Values

variable (named : List Node)

/-- The value of a node that holds no others; `n` bounds how deep its text may be. -/
def atomOf (n : Nat) (node : Node) : Except Fault Value :=
  match node.tag with
  | .null => (textOf named n node).map fun _ => .null
  | .bool => textOf named n node >>= boolOf
  | .int => textOf named n node >>= intOf
  | .float => textOf named n node >>= floatOf
  | .str => (textOf named n node).map .str
  | .binary => textOf named n node >>= bytesOf
  | .timestamp => textOf named n node >>= fun s => match node with
    | .scalar .. => timeOf s
    | _ => .error (.wrongType "expected string or bytes-like object, got 'list'")
  | _ => refuse

/-- The members of a collection that hold others, once the other members have values. -/
def fill (n : Nat) (node : Node) : Except Fault (List Node) := do
  let visit := fun m : Node =>
    if holdsOthers m.tag then Except.ok [m] else (atomOf named n m).map fun _ => []
  let found ← match node.tag with
    | .seq => (← itemsOf node).mapM visit
    | .omap | .pairs => (← itemsOf node).mapM fun x => do
      let e ← pairOf named x
      return (← visit e.1) ++ (← visit e.2)
    | _ => (← flatten named n [] node).mapM fun e => do
      if holdsOthers e.1.tag then refuse
      return (← visit e.1) ++ (← visit e.2)
  return found.flatten

/-- Collections are filled level by level, so of two faults the one in the upper level counts; those
of `seen` are filled already. -/
def fillAll (size : Nat) : Nat → List Nat → List Node → Except Fault Unit
  | _, _, [] => .ok ()
  | 0, _, _ => .error (.tooDeep "maximum recursion depth exceeded")
  | n + 1, seen, level => do
    let fresh := (level.map (resolve named)).filter fun node => !node.number?.any seen.contains
    let found ← fresh.mapM (fill named size)
    fillAll size n (fresh.filterMap number? ++ seen) found.flatten

/-- The value of a node inside the collections of `within`; `n` bounds how deep nodes are nested. -/
def toValue : Nat → List Nat → Node → Except Fault Value
  | 0, _, _ => .error (.tooDeep "maximum recursion depth exceeded")
  | n + 1, within, node =>
    let node := resolve named node
    let inside := node.number?.toList ++ within
    if holdsOthers node.tag && node.number?.any fun i => 2 < inside.count i then
      .ok (.again (node.tag = .map))
    else
      let entry := fun (e : Node × Node) => do
        let k ← toValue n inside e.1
        if !k.isKey then refuse
        else return (k, ← toValue n inside e.2)
      let entries : Except Fault (List (Value × Value)) := do
        return Value.ofEntries (← (← flatten named (n + 1) [] node).mapM entry)
      let pair := fun (x : Node) => do
        let e ← pairOf named x
        return Value.list [← toValue n inside e.1, ← toValue n inside e.2]
      match node.tag with
      | .seq => do return .list (← (← itemsOf node).mapM (toValue n inside))
      | .map => entries.map .map
      | .set => entries.map fun es => .set (es.map (·.1))
      | .omap | .pairs => do return .list (← (← itemsOf node).mapM pair)
      | _ => atomOf named n node

end Values

/-- The value of a document. -/
def Document.value (d : Document) : Except Fault Value := do
  let size := 2 * (maxDepth + d.size)
  if holdsOthers d.root.tag then fillAll d.named size size [] [d.root]
  toValue d.named size [] d.root

end Node

/-- The value of the tokens of a text; one without a document is nothing. -/
def ofTokens (ts : List Token) : Except Fault Value := do
  match ← Node.Document.ofTokens? ts with
  | none => return .null
  | some d => d.value

/-- The value of a text. -/
def read (s : String) : Except Fault Value := tokens s >>= ofTokens

/-- A library that reads YAML; it is a parameter of everything that is loaded with it. -/
class Library where
  read : String → Except Fault Value

instance : Library := ⟨read⟩

end Fiducial.Yaml
