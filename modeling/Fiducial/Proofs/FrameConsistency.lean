import Fiducial.Proofs.FrameRoutes
import Fiducial.Proofs.PoseRecovery
import Fiducial.Proofs.RigidTransforms

/-!
# Lookups and world poses

World poses explain a set of edges if every edge holds the pose of its child relative to its parent.
Along a route the poses in between cancel, whichever way each edge is crossed, so a lookup gives the
pose of the source relative to the target.  Neither the route that is found nor the order in which
the edges were added has a part in it.

A forest of rigid edges always has such poses: an edge that closes no cycle joins two components,
and one of them can be moved as a whole until the edge fits.
-/

namespace Fiducial

noncomputable section

open Transform

namespace Transform

/-- The pose of `b` relative to `a`, from the poses of both in one world. -/
def relative (a b : Transform ℝ) : Transform ℝ := compose (invert a) b

variable {a b : Transform ℝ}

theorem relative_self (ha : a.IsRigid) : relative a a = identity := ha.invert_compose

theorem compose_relative (a : Transform ℝ) (hb : b.IsRigid) (c : Transform ℝ) :
    compose (relative a b) (relative b c) = relative a c := by
  unfold relative
  rw [compose_assoc, ← compose_assoc b, hb.compose_invert, identity_compose]

theorem invert_relative (ha : a.IsRigid) (hb : b.IsRigid) :
    invert (relative a b) = relative b a := by
  let first : Rigid := ⟨a, ha⟩
  let second : Rigid := ⟨b, hb⟩
  have hgroup : (first⁻¹ * second)⁻¹ = second⁻¹ * first := by group
  exact congrArg Subtype.val hgroup

theorem invert_identity : invert (identity : Transform ℝ) = identity :=
  congrArg Subtype.val (inv_one : (1 : Rigid)⁻¹ = 1)

end Transform

namespace FrameGraph

/-! ## World poses -/

/-- Rigid poses of the frames in one world, in which every edge holds the pose of its child relative
to its parent. -/
structure WorldPoses (edges : List (FrameEdge ℝ)) (world : String → Transform ℝ) : Prop where
  rigid : ∀ f, IsFrame edges f → (world f).IsRigid
  edge : ∀ e ∈ edges, e.transform = relative (world e.parent) (world e.child)

section WorldPoses

variable {edges : List (FrameEdge ℝ)} {world : String → Transform ℝ} {a b : String}

theorem WorldPoses.crosses (hworld : WorldPoses edges world) {t : Transform ℝ}
    (hcross : Crosses edges a t b) : t = relative (world a) (world b) := by
  obtain ⟨ha, hb⟩ := hcross.isFrame
  cases hcross with
  | down e he => exact hworld.edge e he
  | up e he =>
      rw [hworld.edge e he]
      exact invert_relative (hworld.rigid _ hb) (hworld.rigid _ ha)

theorem WorldPoses.along (hworld : WorldPoses edges world) (ha : IsFrame edges a)
    {ts : List (Transform ℝ)} (hroute : Route edges a ts b) :
    along ts = relative (world a) (world b) := by
  induction hroute with
  | stay => exact (relative_self (hworld.rigid a ha)).symm
  | @cross ts near far t hprior hcross ih =>
      have hnear := hworld.rigid near hcross.isFrame.1
      rw [along_concat, ih, hworld.crosses hcross, compose_relative _ hnear]

theorem WorldPoses.lookup (hworld : WorldPoses edges world) {g : FrameGraph ℝ}
    (hg : Records g edges) (ha : IsFrame edges a) {t : Transform ℝ}
    (hfound : g.lookup a b = .found t) : t = relative (world a) (world b) := by
  have hlooked := lookedUp_lookup hg a b
  rw [hfound] at hlooked
  cases hlooked with
  | same heq =>
      subst heq
      exact (relative_self (hworld.rigid a ha)).symm
  | connected hne _ _ _ hshortest =>
      obtain ⟨ts, hroute, hproduct, _⟩ := hshortest
      rw [hproduct, hworld.along ha hroute]

end WorldPoses

/-! ## Forests -/

/-- The frames and the edges between them, without directions and transforms. -/
def undirected (edges : List (FrameEdge ℝ)) : SimpleGraph String :=
  .fromEdgeSet {p | ∃ e ∈ edges, p = s(e.parent, e.child)}

/-- No edge joins a frame to itself, no two join the same frames, and no cycle is closed. -/
structure IsForest (edges : List (FrameEdge ℝ)) : Prop where
  proper : ∀ e ∈ edges, e.parent ≠ e.child
  distinct : (edges.map fun e => s(e.parent, e.child)).Nodup
  acyclic : (undirected edges).IsAcyclic

section Forests

variable {edges : List (FrameEdge ℝ)} {e : FrameEdge ℝ}

theorem undirected_cons (e : FrameEdge ℝ) (edges : List (FrameEdge ℝ)) :
    undirected (e :: edges) = undirected edges ⊔ .edge e.parent e.child := by
  ext a b
  simp only [undirected, SimpleGraph.edge, SimpleGraph.sup_adj, SimpleGraph.fromEdgeSet_adj,
    Set.mem_ofPred_eq, Set.mem_singleton_iff, List.mem_cons, exists_eq_or_imp]
  rw [or_and_right, or_comm]

theorem undirected_adj {a b : String} (hadj : (undirected edges).Adj a b) :
    ∃ e ∈ edges, s(a, b) = s(e.parent, e.child) :=
  ((SimpleGraph.fromEdgeSet_adj _).mp hadj).1

theorem reachable_of_mem (he : e ∈ edges) : (undirected edges).Reachable e.parent e.child := by
  by_cases hloop : e.parent = e.child
  · rw [hloop]
  · exact SimpleGraph.Adj.reachable ((SimpleGraph.fromEdgeSet_adj _).mpr ⟨⟨e, he, rfl⟩, hloop⟩)

theorem eq_of_reachable {a b : String} (hreachable : (undirected edges).Reachable a b)
    (ha : ¬IsFrame edges a) : a = b := by
  obtain ⟨walk⟩ := hreachable
  cases walk with
  | nil => rfl
  | cons hadj rest =>
      obtain ⟨e, he, hpair⟩ := undirected_adj hadj
      rcases Sym2.eq_iff.mp hpair with ⟨hparent, -⟩ | ⟨hchild, -⟩
      · exact absurd ⟨e, he, .inl hparent⟩ ha
      · exact absurd ⟨e, he, .inr hchild⟩ ha

theorem isForest_nil : IsForest [] where
  proper := fun e he => nomatch he
  distinct := List.nodup_nil
  acyclic := by
    have hempty : undirected [] = ⊥ := by simp [undirected]
    rw [hempty]
    exact SimpleGraph.isAcyclic_bot

/-- A forest grows by edges that join two of its components. -/
theorem isForest_cons_iff :
    IsForest (e :: edges) ↔
      IsForest edges ∧ ¬(undirected edges).Reachable e.parent e.child := by
  constructor
  · intro hforest
    have hcycle := hforest.acyclic
    rw [undirected_cons, SimpleGraph.isAcyclic_sup_fromEdgeSet_iff] at hcycle
    have hdistinct := List.nodup_cons.mp hforest.distinct
    refine ⟨⟨?_, hdistinct.2, hcycle.1⟩, fun hreachable => ?_⟩
    · exact fun e' he' => hforest.proper e' (List.mem_cons_of_mem e he')
    · rcases hcycle.2 hreachable with hloop | hadj
      · exact hforest.proper e List.mem_cons_self hloop
      · obtain ⟨e', he', hpair⟩ := undirected_adj hadj
        exact hdistinct.1 (List.mem_map.mpr ⟨e', he', hpair.symm⟩)
  · intro ⟨hforest, hapart⟩
    have hproper : e.parent ≠ e.child := fun hloop => hapart (hloop ▸ SimpleGraph.Reachable.refl _)
    constructor
    case proper =>
      intro e' he'
      rcases List.mem_cons.mp he' with rfl | hold
      · exact hproper
      · exact hforest.proper e' hold
    case distinct =>
      refine List.nodup_cons.mpr ⟨fun hmem => ?_, hforest.distinct⟩
      obtain ⟨e', he', hpair⟩ := List.mem_map.mp hmem
      have hadj : (undirected edges).Adj e.parent e.child :=
        (SimpleGraph.fromEdgeSet_adj _).mpr ⟨⟨e', he', hpair.symm⟩, hproper⟩
      exact hapart hadj.reachable
    case acyclic =>
      rw [undirected_cons, SimpleGraph.isAcyclic_sup_fromEdgeSet_iff]
      exact ⟨hforest.acyclic, fun hreachable => absurd hreachable hapart⟩

open Classical in
/-- The component of a frame moved as a whole. -/
def moveComponent (edges : List (FrameEdge ℝ)) (frame : String) (motion : Rigid)
    (world : String → Rigid) (f : String) : Rigid :=
  if (undirected edges).Reachable frame f then motion * world f else world f

theorem moveComponent_relative {frame : String} {motion : Rigid} {world : String → Rigid}
    {a b : String} (hab : (undirected edges).Reachable a b) :
    (moveComponent edges frame motion world a)⁻¹ * moveComponent edges frame motion world b =
      (world a)⁻¹ * world b := by
  have hboth : (undirected edges).Reachable frame a ↔ (undirected edges).Reachable frame b :=
    ⟨fun h => h.trans hab, fun h => h.trans hab.symm⟩
  unfold moveComponent
  by_cases hmoved : (undirected edges).Reachable frame a
  · rw [if_pos hmoved, if_pos (hboth.mp hmoved)]
    group
  · rw [if_neg hmoved, if_neg fun h => hmoved (hboth.mpr h)]

theorem IsForest.exists_rigid (hforest : IsForest edges)
    (hrigid : ∀ e ∈ edges, e.transform.IsRigid) :
    ∃ world : String → Rigid,
      ∀ e ∈ edges, e.transform = ((world e.parent)⁻¹ * world e.child).1 := by
  induction edges with
  | nil => exact ⟨fun _ => 1, fun e he => nomatch he⟩
  | cons e edges ih =>
      obtain ⟨hrest, hapart⟩ := isForest_cons_iff.mp hforest
      obtain ⟨world, hworld⟩ := ih hrest
        fun e' he' => hrigid e' (List.mem_cons_of_mem e he')
      let fit : Rigid := ⟨e.transform, hrigid e List.mem_cons_self⟩
      let motion : Rigid := world e.parent * fit * (world e.child)⁻¹
      refine ⟨moveComponent edges e.child motion world, ?_⟩
      intro e' he'
      rcases List.mem_cons.mp he' with rfl | hold
      · have hparent : moveComponent edges e'.child motion world e'.parent = world e'.parent :=
          if_neg fun h => hapart h.symm
        have hchild : moveComponent edges e'.child motion world e'.child =
            motion * world e'.child := if_pos (SimpleGraph.Reachable.refl _)
        have hfit : fit = (world e'.parent)⁻¹ * (motion * world e'.child) := by
          change fit = (world e'.parent)⁻¹ *
            (world e'.parent * fit * (world e'.child)⁻¹ * world e'.child)
          group
        rw [hparent, hchild, ← hfit]
      · rw [moveComponent_relative (reachable_of_mem hold)]
        exact hworld e' hold

theorem IsForest.exists_worldPoses (hforest : IsForest edges)
    (hrigid : ∀ e ∈ edges, e.transform.IsRigid) : ∃ world, WorldPoses edges world := by
  obtain ⟨world, hworld⟩ := hforest.exists_rigid hrigid
  exact ⟨fun f => (world f).1, fun f _ => (world f).2, hworld⟩

end Forests

/-! ## Lookups in a consistent graph -/

section Lookups

variable {edges : List (FrameEdge ℝ)} {world : String → Transform ℝ} {g : FrameGraph ℝ}
  {a b c : String} {t u : Transform ℝ}

theorem WorldPoses.lookup_of_route (hworld : WorldPoses edges world) (hg : Records g edges)
    (ha : IsFrame edges a) (hb : IsFrame edges b) {ts : List (Transform ℝ)}
    (hroute : Route edges a ts b) : g.lookup a b = .found (relative (world a) (world b)) := by
  obtain ⟨t, hfound⟩ := (lookup_found_iff hg).mpr (.inr ⟨ha, hb, ts, hroute⟩)
  rw [hfound, hworld.lookup hg ha hfound]

theorem WorldPoses.lookup_turned (hworld : WorldPoses edges world) (hg : Records g edges)
    (hfound : g.lookup a b = .found t) : g.lookup b a = .found (invert t) := by
  rcases found_cases hg hfound with ⟨rfl, rfl⟩ | ⟨ha, hb, ts, hroute⟩
  · rw [invert_identity, hfound]
  · obtain ⟨us, hback⟩ := hroute.turned
    rw [hworld.lookup_of_route hg hb ha hback, hworld.lookup hg ha hfound,
      invert_relative (hworld.rigid a ha) (hworld.rigid b hb)]

theorem WorldPoses.lookup_chained (hworld : WorldPoses edges world) (hg : Records g edges)
    (hab : g.lookup a b = .found t) (hbc : g.lookup b c = .found u) :
    g.lookup a c = .found (compose t u) := by
  rcases found_cases hg hab with ⟨rfl, rfl⟩ | ⟨ha, hb, ts, hfirst⟩
  · rw [identity_compose, hbc]
  rcases found_cases hg hbc with ⟨rfl, rfl⟩ | ⟨_, hc, us, hsecond⟩
  · rw [compose_identity, hab]
  · rw [hworld.lookup_of_route hg ha hc (hfirst.trans hsecond), hworld.lookup hg ha hab,
      hworld.lookup hg hb hbc, compose_relative _ (hworld.rigid b hb)]

theorem WorldPoses.lookup_perm (hworld : WorldPoses edges world) (hg : Records g edges)
    {edges' : List (FrameEdge ℝ)} {g' : FrameGraph ℝ} (hg' : Records g' edges')
    (hperm : edges'.Perm edges) (hfound : g.lookup a b = .found t) :
    g'.lookup a b = .found t := by
  have hworld' : WorldPoses edges' world :=
    ⟨fun f hf => hworld.rigid f (hf.mono hperm.subset),
      fun e he => hworld.edge e (hperm.subset he)⟩
  have hsubset : edges ⊆ edges' := hperm.symm.subset
  rcases found_cases hg hfound with ⟨rfl, rfl⟩ | ⟨ha, hb, ts, hroute⟩
  · exact if_pos rfl
  · rw [hworld'.lookup_of_route hg' (ha.mono hsubset) (hb.mono hsubset) (hroute.mono hsubset),
      hworld.lookup hg ha hfound]

end Lookups

/-- What lookups give in a graph whose edges are explained by world poses. -/
structure Consistent (edges : List (FrameEdge ℝ)) (g : FrameGraph ℝ)
    (world : String → Transform ℝ) : Prop where
  relative : ∀ target source t, IsFrame edges target → IsFrame edges source →
    g.lookup target source = .found t → t = compose (invert (world target)) (world source)
  turned : ∀ a b t, g.lookup a b = .found t → g.lookup b a = .found (invert t)
  chained : ∀ a b c t u, g.lookup a b = .found t → g.lookup b c = .found u →
    g.lookup a c = .found (compose t u)
  any_order : ∀ edges' g', edges'.Perm edges → ofEdges edges' = .ok g' →
    ∀ a b t, g.lookup a b = .found t → g'.lookup a b = .found t

theorem lookup_consistent {edges : List (FrameEdge ℝ)} {g : FrameGraph ℝ}
    (hbuild : ofEdges edges = .ok g) :
    (∀ world, WorldPoses edges world → Consistent edges g world) ∧
      (IsForest edges → (∀ e ∈ edges, e.transform.IsRigid) →
        ∃ world, WorldPoses edges world) := by
  have hg := records_ofEdges hbuild
  refine ⟨fun world hworld => ?_, fun hforest hrigid => hforest.exists_worldPoses hrigid⟩
  constructor
  case relative => exact fun target source t htarget _ hfound => hworld.lookup hg htarget hfound
  case turned => exact fun a b t hfound => hworld.lookup_turned hg hfound
  case chained => exact fun a b c t u hab hbc => hworld.lookup_chained hg hab hbc
  case any_order =>
    intro edges' g' hperm hbuild' a b t hfound
    exact hworld.lookup_perm hg (records_ofEdges hbuild') hperm hfound

/-! ## A tree, and a cycle that agrees -/

namespace CameraCycle

open QuarterTurns

/-- The poses of a mount and of a camera on it, in the world of the vehicle. -/
def world (f : String) : Transform ℝ :=
  if f = "mount" then vehicle else if f = "camera" then sensor else identity

def tree : List (FrameEdge ℝ) :=
  [⟨"base_link", "mount", relative identity vehicle⟩, ⟨"mount", "camera", relative vehicle sensor⟩]

def cycle : List (FrameEdge ℝ) := tree ++ [⟨"camera", "base_link", relative sensor identity⟩]

theorem isForest_tree : IsForest tree := by
  refine isForest_cons_iff.mpr ⟨isForest_cons_iff.mpr ⟨isForest_nil, ?_⟩, ?_⟩
  · intro hreachable
    have hsame := eq_of_reachable hreachable (by simp [IsFrame])
    simp at hsame
  · intro hreachable
    have hsame := eq_of_reachable hreachable (by simp [IsFrame])
    simp at hsame

theorem isRigid_world (f : String) : (world f).IsRigid := by
  unfold world
  split
  · exact isRigid_rigid isRotation_turnZ _
  · split
    · exact isRigid_rigid isRotation_turnX _
    · exact isRigid_identity

theorem edge_cycle : ∀ e ∈ cycle, e.transform = relative (world e.parent) (world e.child) := by
  intro e he
  simp only [cycle, tree, List.cons_append, List.nil_append, List.mem_cons, List.not_mem_nil,
    or_false] at he
  rcases he with rfl | rfl | rfl <;> rfl

theorem worldPoses_cycle : WorldPoses cycle world := ⟨fun f _ => isRigid_world f, edge_cycle⟩

theorem isRigid_tree : ∀ e ∈ tree, e.transform.IsRigid := by
  intro e he
  rw [edge_cycle e (List.mem_append_left _ he)]
  exact (isRigid_world _).invert.compose (isRigid_world _)

end CameraCycle

open CameraCycle in
theorem lookup_consistent_camera_cycle :
    (∃ g t, ofEdges cycle = .ok g ∧ g.lookup "camera" "mount" = .found t ∧
      t = compose (invert (world "camera")) (world "mount") ∧
      g.lookup "mount" "camera" = .found (invert t)) ∧
    ∃ poses, WorldPoses tree poses := by
  have hbuild : ofEdges cycle = .ok ⟨_⟩ := rfl
  have hconsistent := (lookup_consistent hbuild).1 world worldPoses_cycle
  have hmount : IsFrame cycle "mount" := ⟨_, List.mem_cons_self, .inr rfl⟩
  have hcamera : IsFrame cycle "camera" :=
    ⟨_, List.mem_cons_of_mem _ List.mem_cons_self, .inr rfl⟩
  have hback : Route cycle "camera" [_] "mount" :=
    .cross .stay (.up ⟨"mount", "camera", _⟩ (List.mem_cons_of_mem _ List.mem_cons_self))
  obtain ⟨t, hfound⟩ := (lookup_found_iff (records_ofEdges hbuild)).mpr
    (.inr ⟨hcamera, hmount, _, hback⟩)
  have hrelative := hconsistent.relative _ _ t hcamera hmount hfound
  have hturned := hconsistent.turned _ _ t hfound
  have htree := (lookup_consistent (rfl : ofEdges tree = .ok ⟨_⟩)).2 isForest_tree isRigid_tree
  exact ⟨⟨_, t, hbuild, hfound, hrelative, hturned⟩, htree⟩

end FrameGraph

end

end Fiducial
