import Fiducial.Yaml.Tag
import Fiducial.Yaml.Token.Scan

/-!
# Nodes of YAML

A document is a tree of nodes with tags.  An alias stands for the node that was named before it, and
no name is given twice.  A list or mapping has its name before its members are read, so it may stand
inside itself; there it is only pointed to, by the number under which it was begun.  A text holds
one document, or none.

Every reader below uses up a token before it calls another, so the number of tokens bounds the
calls.
-/

namespace Fiducial.Yaml

/-- Lists and mappings are numbered in the order in which they begin. -/
inductive Node where
  | scalar (tag : Tag) (text : String)
  | list (tag : Tag) (number : Nat) (items : List Node)
  | map (tag : Tag) (number : Nat) (entries : List (Node × Node))
  /-- The list or mapping with this number, which this node stands inside of. -/
  | again (tag : Tag) (number : Nat)

namespace Node

def tag : Node → Tag
  | scalar t _ => t
  | list t _ _ => t
  | map t _ _ => t
  | again t _ => t

def number? : Node → Option Nat
  | scalar .. => none
  | list _ i _ => some i
  | map _ i _ => some i
  | again _ i => some i

/-- What reading nodes goes through. -/
structure Reading where
  tokens : List Token
  /-- The nodes with a name, the latest first. -/
  anchors : List (String × Node)
  handles : List (String × String)
  /-- How many lists and mappings were begun. -/
  begun : Nat

abbrev Read := StateT Reading (Except Fault)

def peek : Read (Option Token) := return (← get).tokens.head?

def drop : Read Unit := modify fun r => { r with tokens := r.tokens.tail }

def fail {β : Type} : Read β := throw .malformedData

def expect (t : Token) : Read Unit := do
  if (← peek) = some t then drop else fail

def nextIs (ts : List Token) : Read Bool := return (← peek).any ts.contains

/-- Nodes may be nested to this depth. -/
def maxDepth : Nat := 480

/-- A node that is not written. -/
def absent : Node := .scalar .null ""

/-- The full name of a tag, which must have a known handle. -/
def tagName (handle : Option String) (suffix : String) : Read String := do
  match handle with
  | none => return suffix
  | some h =>
    match (← get).handles.lookup h with
    | some meaning => return meaning ++ suffix
    | none => fail

def readAnchor : Read (Option String) := do
  match ← peek with
  | some (.anchor n) => drop; return some n
  | _ => return none

def readTag : Read (Option String) := do
  match ← peek with
  | some (.tag h s) => drop; return some (← tagName h s)
  | _ => return none

/-- The anchor and the tag of a node, in either order. -/
def properties : Read (Option String × Option String) := do
  match ← readAnchor with
  | some a => return (some a, ← readTag)
  | none =>
    match ← readTag with
    | some t => return (← readAnchor, some t)
    | none => return (none, none)

/-- The tag of a collection; a lone exclamation mark counts as none. -/
def collectionTag (default : Tag) : Option String → Tag
  | none => default
  | some "!" => default
  | some name => Tag.ofName name

def scalarTag (text : String) (plain : Bool) : Option String → Tag
  | none => if plain then Tag.ofPlain text else .str
  | some "!" => Tag.ofPlain text
  | some name => Tag.ofName name

/-- The latest entry under a name counts. -/
def nameAs (anchor : Option String) (n : Node) : Read Unit := do
  if let some a := anchor then modify fun r => { r with anchors := (a, n) :: r.anchors }

/-- The number of a list or mapping whose members are read next. -/
def begin (anchor : Option String) (tag : Tag) : Read Nat := do
  let i := (← get).begun
  modify fun r => { r with begun := i + 1 }
  nameAs anchor (.again tag i)
  return i

def listOf (anchor : Option String) (tag : Tag) (items : Read (List Node)) : Read Node := do
  let i ← begin anchor tag
  return .list tag i (← items)

def mapOf (anchor : Option String) (tag : Tag) (entries : Read (List (Node × Node))) :
    Read Node := do
  let i ← begin anchor tag
  return .map tag i (← entries)

/-- A node with properties and nothing else. -/
def bare (anchor tag : Option String) : Read Node :=
  if anchor.isNone && tag.isNone then fail else return .scalar (scalarTag "" true tag) ""

mutual

/-- A node; block collections are allowed in `block`, and lists without indentation in `flush`. -/
def read (block flush : Bool) (depth : Nat) : Nat → Read Node
  | 0 => fail
  | n + 1 => do
    if maxDepth < depth then throw (.tooDeep "maximum recursion depth exceeded")
    match ← peek with
    | some (.alias name) =>
      drop
      match (← get).anchors.lookup name with
      | some node => return node
      | none => fail
    | _ =>
      let (anchor, tag) ← properties
      if let some a := anchor then
        if ((← get).anchors.lookup a).isSome then fail
      let node ← match ← peek with
        | some .entry =>
          if flush then listOf anchor (collectionTag .seq tag) (flushItems depth n [])
          else bare anchor tag
        | some (.scalar text plain) =>
          drop
          pure (Node.scalar (scalarTag text plain tag) text)
        | some .flowList =>
          drop
          listOf anchor (collectionTag .seq tag) (flowItems depth true n [])
        | some .flowMap =>
          drop
          mapOf anchor (collectionTag .map tag) (flowEntries depth true n [])
        | some .blockList =>
          if block then
            drop
            listOf anchor (collectionTag .seq tag) (blockItems depth n [])
          else bare anchor tag
        | some .blockMap =>
          if block then
            drop
            mapOf anchor (collectionTag .map tag) (blockEntries depth n [])
          else bare anchor tag
        | _ => bare anchor tag
      nameAs anchor node
      return node
termination_by structural n => n

/-- A node in a block, or an absent one before any of `stops`. -/
def blockNode (flush : Bool) (stops : List Token) (depth : Nat) : Nat → Read Node
  | 0 => fail
  | n + 1 => do
    if ← nextIs stops then return absent else read true flush (depth + 1) n
termination_by structural n => n

def flowNode (stops : List Token) (depth : Nat) : Nat → Read Node
  | 0 => fail
  | n + 1 => do
    if ← nextIs stops then return absent else read false false (depth + 1) n
termination_by structural n => n

def blockItems (depth : Nat) : Nat → List Node → Read (List Node)
  | 0, _ => fail
  | n + 1, acc => do
    if ← nextIs [.entry] then
      drop
      let node ← blockNode false [.entry, .blockEnd] depth n
      blockItems depth n (node :: acc)
    else
      expect .blockEnd
      return acc.reverse
termination_by structural n _ => n

def flushItems (depth : Nat) : Nat → List Node → Read (List Node)
  | 0, _ => fail
  | n + 1, acc => do
    if ← nextIs [.entry] then
      drop
      let node ← blockNode false [.entry, .key, .value, .blockEnd] depth n
      flushItems depth n (node :: acc)
    else return acc.reverse
termination_by structural n _ => n

def blockEntries (depth : Nat) : Nat → List (Node × Node) → Read (List (Node × Node))
  | 0, _ => fail
  | n + 1, acc => do
    if ← nextIs [.key] then
      drop
      let k ← blockNode true [.key, .value, .blockEnd] depth n
      let v ←
        if ← nextIs [.value] then do
          drop
          blockNode true [.key, .value, .blockEnd] depth n
        else pure absent
      blockEntries depth n ((k, v) :: acc)
    else
      expect .blockEnd
      return acc.reverse
termination_by structural n _ => n

def flowItems (depth : Nat) (first : Bool) : Nat → List Node → Read (List Node)
  | 0, _ => fail
  | n + 1, acc => do
    if ← nextIs [.flowListEnd] then
      drop
      return acc.reverse
    if !first then expect .comma
    if ← nextIs [.key] then
      drop
      let k ← flowNode [.value, .comma, .flowListEnd] (depth + 1) n
      let v ←
        if ← nextIs [.value] then do
          drop
          flowNode [.comma, .flowListEnd] (depth + 1) n
        else pure absent
      let i ← begin none .map
      flowItems depth false n (.map .map i [(k, v)] :: acc)
    else if ← nextIs [.flowListEnd] then
      drop
      return acc.reverse
    else
      let node ← read false false (depth + 1) n
      flowItems depth false n (node :: acc)
termination_by structural n _ => n

def flowEntries (depth : Nat) (first : Bool) : Nat → List (Node × Node) → Read (List (Node × Node))
  | 0, _ => fail
  | n + 1, acc => do
    if ← nextIs [.flowMapEnd] then
      drop
      return acc.reverse
    if !first then expect .comma
    if ← nextIs [.key] then
      drop
      let k ← flowNode [.value, .comma, .flowMapEnd] depth n
      let v ←
        if ← nextIs [.value] then do
          drop
          flowNode [.comma, .flowMapEnd] depth n
        else pure absent
      flowEntries depth false n ((k, v) :: acc)
    else if ← nextIs [.flowMapEnd] then
      drop
      return acc.reverse
    else
      let k ← read false false (depth + 1) n
      flowEntries depth false n ((k, absent) :: acc)
termination_by structural n _ => n

end

/-- The directives before a document: one version, of the first generation, and tag handles. -/
def directives : Nat → Bool → Read Bool
  | 0, seen => return seen
  | n + 1, seen => do
    match ← peek with
    | some (.version major) =>
      if seen || major ≠ 1 then fail
      drop
      directives n true
    | some (.tagHandle h m) =>
      if ((← get).handles.lookup h).isSome then fail
      drop
      modify fun r => { r with handles := (h, m) :: r.handles }
      directives n seen
    | some .reserved =>
      drop
      directives n seen
    | _ => return seen

def isDirective : Token → Bool
  | .version _ | .tagHandle .. | .reserved => true
  | _ => false

def defaultHandles : List (String × String) := [("!", "!"), ("!!", standardTags)]

/-- Past the marks that end documents. -/
def skipEnds : Nat → Read Unit
  | 0 => return ()
  | n + 1 => do
    if ← nextIs [.documentEnd] then
      drop
      skipEnds n

def content (size : Nat) : Read Node := do
  match ← peek with
  | some t =>
    if isDirective t || [Token.documentStart, .documentEnd, .streamEnd].contains t then
      return absent
    else read true false 1 size
  | none => fail

/-- The only document of a text, if it has one. -/
def document : Read (Option Node) := do
  let size := 4 * (← get).tokens.length + 4
  if ← nextIs [.streamEnd] then return none
  let explicit := (← peek).any fun t => isDirective t || t = .documentStart
  let node ←
    if explicit then do
      let _ ← directives size false
      modify fun r => { r with
        handles := r.handles ++ defaultHandles.filter fun d => (r.handles.lookup d.1).isNone }
      expect .documentStart
      content size
    else do
      modify fun r => { r with handles := defaultHandles }
      read true false 1 size
  skipEnds size
  expect .streamEnd
  return some node

/-- What a text holds: a tree and the nodes in it that have names. -/
structure Document where
  root : Node
  named : List Node
  /-- How many lists and mappings there are. -/
  size : Nat

def Document.ofTokens? (ts : List Token) : Except Fault (Option Document) := do
  let (root, r) ← document.run ⟨ts, [], [], 0⟩
  return root.map fun root => ⟨root, r.anchors.map (·.2), r.begun⟩

end Node
end Fiducial.Yaml
