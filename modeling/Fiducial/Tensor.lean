import Fiducial.Value.Number
import Fiducial.Geometry.Rotation

/-!
# Rectangular arrays

Nested lists of data are read as an array of doubles: a shape and the entries in row-major order.
Lists of one level must agree in shape.  That is checked before any entry is read, and then the
first entry that is not a number decides.  Nothing at all counts as a number that is not known.
-/

namespace Fiducial

structure Tensor where
  shape : List Nat
  data : List Float
deriving Repr

namespace Value

mutual

/-- The shape of nested lists; lists of different shapes side by side have none, and neither has a
list that stands inside itself. -/
def shape? : Value → Option (List Nat)
  | .list [] => some [0]
  | .list (x :: xs) => do
    let s ← shape? x
    if shapesAre s xs then some ((xs.length + 1) :: s) else none
  | .again false => none
  | _ => some []

def shapesAre (s : List Nat) : List Value → Bool
  | [] => true
  | x :: xs => shape? x == some s && shapesAre s xs

end

/-- The beginning in which two lists agree. -/
def agreement : List Nat → List Nat → List Nat
  | m :: ms, n :: ns => if m = n then m :: agreement ms ns else []
  | _, _ => []

mutual

/-- The lengths of nested lists down to the first level on which some of them differ. -/
def commonShape : Value → List Nat
  | .list [] => [0]
  | .list (x :: xs) => (xs.length + 1) :: commonShapeWith (commonShape x) xs
  | _ => []

def commonShapeWith (s : List Nat) : List Value → List Nat
  | [] => s
  | x :: xs => commonShapeWith (agreement s (commonShape x)) xs

end

mutual

/-- The values in nested lists that are not lists themselves. -/
def leaves : Value → List Value
  | .list xs => leavesOf xs
  | v => [v]

def leavesOf : List Value → List Value
  | [] => []
  | x :: xs => leaves x ++ leavesOf xs

end

/-- An entry of an array; an absent one is not a number. -/
def toEntry : Value → Except Fault Float
  | .null => .ok Binary.nan
  | v => v.toFloat

end Value

namespace Tensor

/-- Arrays have at most this many dimensions. -/
def maxRank : Nat := 64

/-- The shape of a value as an array. -/
def shapeOf (v : Value) : Except Fault (List Nat) :=
  match v.shape? with
  | some s => if s.length ≤ maxRank then .ok s else .error (.tooManyLevels maxRank)
  | none =>
    let s := v.commonShape
    .error (if s.length < maxRank then .ragged s else .tooManyLevels maxRank)

def ofValue (v : Value) : Except Fault Tensor := do
  let s ← shapeOf v
  return ⟨s, ← v.leaves.mapM Value.toEntry⟩

def size (t : Tensor) : Nat := t.data.length

/-- A shape written with brackets, as it was asked for. -/
def requestText : List Int → String
  | [n] => "(" ++ intText n ++ ",)"
  | ns => "(" ++ ",".intercalate (ns.map intText) ++ ")"

/-- The shape asked for, with the one length left open by `-1` filled in. -/
def fillShape? (size : Nat) (dims : List Int) : Option (List Nat) :=
  let known := (dims.filter (· ≠ -1)).foldl (fun p n => p * n.toNat) 1
  if dims.any (· < -1) then none
  else match (dims.filter (· = -1)).length with
    | 0 => if known = size then some (dims.map Int.toNat) else none
    | 1 =>
      if known ≠ 0 ∧ size % known = 0 then
        some (dims.map fun n => if n = -1 then size / known else n.toNat)
      else none
    | _ => none

def reshape (t : Tensor) (dims : List Int) : Except Fault Tensor :=
  match fillShape? t.size dims with
  | some s => .ok ⟨s, t.data⟩
  | none => .error (.badReshape t.size (requestText dims))

/-- The entries in a form made of exactly `n` of them. -/
def entries {β : Type} (t : Tensor) (dims : List Int) (form : List Float → Option β) :
    Except Fault β :=
  match form t.data with
  | some b => .ok b
  | none => .error (.badReshape t.size (requestText dims))

def toVec3 (t : Tensor) : Except Fault (Vec3 Float) := t.entries [3] Vec3.ofList?

def toMat3 (t : Tensor) : Except Fault (Mat3 Float) := t.entries [3, 3] Mat3.ofList?

def toQuaternion (t : Tensor) : Except Fault (Quaternion Float) := t.entries [4] Quaternion.ofList?

/-- The transform whose matrix has this shape already. -/
def transform? (t : Tensor) : Option (Transform Float) :=
  if t.shape = [4, 4] then Transform.ofList? t.data else none

/-- The matrix of a transform, which must have four rows and columns. -/
def toTransform (name : String) (t : Tensor) : Except Fault (Transform Float) :=
  match t.transform? with
  | some m => .ok m
  | none => .error (.notTransform name t.shape)

/-- Groups of `n`; `fuel` bounds their number. -/
def chunks {β : Type} (n : Nat) : Nat → List β → List (List β)
  | 0, _ => []
  | fuel + 1, xs => if xs.isEmpty then [] else xs.take n :: chunks n fuel (xs.drop n)

/-- The points of a plane whose coordinates follow each other in the array. -/
def points (t : Tensor) : Except Fault (List (Float × Float)) :=
  if t.size % 2 = 0 then
    .ok ((chunks 2 t.size t.data).filterMap fun
      | [u, v] => some (u, v)
      | _ => none)
  else .error (.badReshape t.size (requestText [-1, 2]))

end Tensor
end Fiducial
