import Fiducial.Config.Reader
import Fiducial.Files.Tree
import Fiducial.FrameGraph
import Fiducial.Yaml.Reader

/-!
# Configuration files

A configuration is a YAML file.  Its fixed transforms make the graph of the frames of the vehicle.
-/

namespace Fiducial

/-- The configuration in the content of a file. -/
def Config.ofContent [Yaml.Library] (data : ByteArray) : Except Fault Config :=
  match Text.readFile? data with
  | none => .error .notUtf8
  | some text => do Config.ofDocument (← Yaml.Library.read text)

def Config.load [Yaml.Library] (t : FileTree) (p : Path) : Except Fault Config := do
  Config.ofContent (← t.read p p.text)

namespace StaticTransform

/-- Whether a value beside text in a list is turned into text itself. -/
def becomesText : Value → Bool
  | .str _ | .bool _ | .int _ | .float _ => true
  | _ => false

/-- The values of a list that holds text become text together. -/
def alike (vs : List Value) : List Value :=
  if vs.any (fun v => match v with | .str _ => true | _ => false) && vs.all becomesText then
    vs.map fun v => .str v.text
  else vs

/-- A fault about text names it as an entry of an array. -/
def asEntry : Fault → Fault
  | .badNumber s shown => .badNumber s ("np.str_(" ++ shown ++ ")")
  | f => f

/-- The entries of nested lists whose values were first made alike. -/
def tensorOf (v : Value) : Except Fault Tensor := do
  let s ← Tensor.shapeOf v
  return ⟨s, ← ((alike v.leaves).mapM Value.toEntry).mapError asEntry⟩

variable {α : Type} [Scalar α]

/-- The pose of the child in the parent. -/
def transform (s : StaticTransform) : Except Fault (Transform α) := do
  let q ← (← tensorOf s.rotation).toQuaternion
  match (q.map Scalar.ofFloat : Quaternion α).toMatrix? with
  | none => throw (.badQuaternion q.toList)
  | some r =>
    let t ← (← tensorOf s.translation).toVec3
    return Transform.rigid r (t.map Scalar.ofFloat)

end StaticTransform

namespace FrameGraph

variable {α : Type} [Scalar α]

/-- The graph with one more fixed transform. -/
def addStatic (g : FrameGraph α) (s : StaticTransform) : Except Fault (FrameGraph α) := do
  let t ← s.transform
  g.add (← s.parent.name) (← s.child.name) t

def ofStatic (ss : List StaticTransform) : Except Fault (FrameGraph α) := ss.foldlM addStatic empty

end FrameGraph
end Fiducial
