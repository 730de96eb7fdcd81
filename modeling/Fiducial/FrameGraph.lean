import Fiducial.Gate.Basic

/-!
# Coordinate frames

Frames are names; a link says how one of them stands in another.  Adding a transform adds a link in
both directions, the second with the inverse transform.  A lookup walks the links breadth first from
the target frame and multiplies the transforms on its way, so it uses as few links as possible, and
among equally short ways the links that were added first.

The search keeps a queue of links to be crossed, each with the pose of its near end, and the links
whose far end has not been reached.  Crossing a link removes every other link to the same frame, so
each step shortens one of the two.
-/

namespace Fiducial

structure FrameLink (α : Type) where
  near : String
  far : String
  /-- The pose of the far frame in the near one. -/
  transform : Transform α
deriving Repr

/-- Links in the order in which they were added. -/
structure FrameGraph (α : Type) where
  links : List (FrameLink α)

namespace FrameGraph

variable {α : Type}

def empty : FrameGraph α := ⟨[]⟩

def hasFrame (g : FrameGraph α) (name : String) : Bool := g.links.any (·.near = name)

/-- The names of all frames in the order of their code points. -/
def frames (g : FrameGraph α) : List String :=
  ((g.links.map (·.near)).eraseDups).mergeSort fun a b => decide (a ≤ b)

/-- The links that lead to some other frame. -/
def leadingElsewhere (links : List (FrameLink α)) (frame : String) : List (FrameLink α) :=
  links.filter (·.far ≠ frame)

theorem leadingElsewhere_length_lt (links : List (FrameLink α)) (frame : String)
    (h : links.any (·.far = frame)) : (leadingElsewhere links frame).length < links.length := by
  obtain ⟨l, hl, hf⟩ := List.any_eq_true.mp h
  refine List.length_filter_lt_length_iff_exists.mpr ⟨l, hl, ?_⟩
  simpa using hf

variable [Scalar α]

/-- The graph with `child` standing in `parent`. -/
def add (g : FrameGraph α) (parent child : String) (t : Transform α) :
    Except Fault (FrameGraph α) :=
  if parent = child then .error (.sameFrame parent)
  else .ok ⟨g.links ++ [⟨parent, child, t⟩, ⟨child, parent, t.invert⟩]⟩

/-- The links out of a frame, each with the pose of that frame. -/
def outgoing (g : FrameGraph α) (frame : String) (pose : Transform α) :
    List (FrameLink α × Transform α) :=
  (g.links.filter (·.near = frame)).map (·, pose)

/-- Crosses the links of the queue until one leads to the goal. -/
def search (g : FrameGraph α) (goal : String) (unreached : List (FrameLink α))
    (queue : List (FrameLink α × Transform α)) : Option (Transform α) :=
  match queue with
  | [] => none
  | (link, pose) :: rest =>
    if unreached.any (·.far = link.far) then
      let here := pose.compose link.transform
      if link.far = goal then some here
      else
        search g goal (leadingElsewhere unreached link.far) (rest ++ g.outgoing link.far here)
    else search g goal unreached rest
termination_by (unreached.length, queue.length)
decreasing_by
  · rename_i h _
    exact Prod.Lex.left _ _ (leadingElsewhere_length_lt _ _ h)
  · exact Prod.Lex.right _ (by simp)

/-- The pose of the source frame in the target frame. -/
def lookup (g : FrameGraph α) (target source : String) : FrameAnswer α :=
  if target = source then .found Transform.identity
  else if !g.hasFrame target then
    .missing ("\"" ++ target ++ "\" passed to lookupTransform argument target_frame does not exist")
  else if !g.hasFrame source then
    .missing ("\"" ++ source ++ "\" passed to lookupTransform argument source_frame does not exist")
  else
    match g.search source (leadingElsewhere g.links target)
        (g.outgoing target Transform.identity) with
    | some t => .found t
    | none => .missing (target ++ " and " ++ source ++ " are not part of the same tree")

/-- The graph with a child whose pose is given as data. -/
def addValue (g : FrameGraph Float) (parent child : String) (pose : Tensor) :
    Except Fault (FrameGraph Float) :=
  if parent = child then .error (.sameFrame parent)
  else do g.add parent child (← pose.toTransform "T_parent_from_child")

end FrameGraph
end Fiducial
