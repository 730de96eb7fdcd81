import Fiducial.Json.Token

/-!
# Reading JSON

A value is built from tokens with a stack of the lists and mappings that are still open.  One
token is used up in each step.  What stands on the stack says what may come next, so there is no
other state. Of two entries with one key the later counts, in the place of the earlier.
-/

namespace Fiducial.Json

/-- A list or mapping that is still open, with its last member first. -/
inductive Open where
  /-- A list, and whether a member must follow or may not. -/
  | list (items : List Value) (ready : Bool)
  /-- A mapping before a key, and whether a key must follow or may not. -/
  | map (entries : List (Value × Value)) (ready : Bool)
  | colon (entries : List (Value × Value)) (key : String)
  | entry (entries : List (Value × Value)) (key : String)

/-- Why a text is not read. -/
inductive Trouble where
  | malformed
  | tooDeep
  | tooLong
deriving DecidableEq, Repr

def Trouble.fault : Trouble → Fault
  | malformed => .badValue "malformed JSON"
  | tooDeep => .tooDeep "maximum recursion depth exceeded while decoding a JSON document"
  | tooLong => .badValue "Exceeds the limit (4300 digits) for integer string conversion"

/-- Lists and mappings may be nested to this depth. -/
def maxDepth : Nat := 990

/-- What a completed value does to the stack; with nothing open it is the whole. -/
def deliver (v : Value) : List Open → Except Trouble (Value ⊕ List Open)
  | [] => .ok (.inl v)
  | .list items true :: st => .ok (.inr (.list (v :: items) false :: st))
  | .entry entries key :: st => .ok (.inr (.map (Value.insert (.str key) v entries) false :: st))
  | _ => .error .malformed

/-- Whether a value may begin here. -/
def expectsValue : List Open → Bool
  | [] => true
  | .list _ ready :: _ => ready
  | .entry .. :: _ => true
  | _ => false

def enter (o : Open) (st : List Open) : Except Trouble (Value ⊕ List Open) :=
  if !expectsValue st then .error .malformed
  else if maxDepth ≤ st.length then .error .tooDeep
  else .ok (.inr (o :: st))

def step (st : List Open) : Token → Except Trouble (Value ⊕ List Open)
  | .openList => enter (.list [] true) st
  | .openMap => enter (.map [] true) st
  | .closeList => match st with
    | .list items ready :: r =>
      if ready && items ≠ [] then .error .malformed else deliver (.list items.reverse) r
    | _ => .error .malformed
  | .closeMap => match st with
    | .map entries ready :: r =>
      if ready && entries ≠ [] then .error .malformed else deliver (.map entries) r
    | _ => .error .malformed
  | .comma => match st with
    | .list items false :: r => .ok (.inr (.list items true :: r))
    | .map entries false :: r => .ok (.inr (.map entries true :: r))
    | _ => .error .malformed
  | .colon => match st with
    | .colon entries key :: r => .ok (.inr (.entry entries key :: r))
    | _ => .error .malformed
  | .text s => match st with
    | .map entries true :: r => .ok (.inr (.colon entries s :: r))
    | _ => deliver (.str s) st
  | .atom v => deliver v st
  | .tooLong => if expectsValue st then .error .tooLong else .error .malformed
  | .junk => .error .malformed

/-- The value of tokens, with nothing after it. -/
def build : List Open → List Token → Except Trouble Value
  | _, [] => .error .malformed
  | st, t :: ts =>
    match step st t with
    | .error e => .error e
    | .ok (.inl v) => if ts.isEmpty then .ok v else .error .malformed
    | .ok (.inr st') => build st' ts

def read (s : String) : Except Trouble Value := build [] (tokens s.toList)

end Fiducial.Json
