import Fiducial.Proofs.FrameConsistency

/-!
# The order in which edges are added

A search visits frames in an order that depends on the order of the edges, and so do the frames that
it has reached when it finds its goal.  In a forest that makes no difference to the answer.  A
shortest route is a path of the forest, two frames are joined by one path at most, and the crossing
from a frame to its neighbour belongs to one edge in one direction.  So the transforms on a shortest
route are always the same in the same order, and their product is the same whatever arithmetic is
used.
-/

namespace Fiducial
namespace FrameGraph

variable {α : Type}

/-- The edges with nothing said about how their frames stand.  Whether edges form a forest is a
question of their outline. -/
noncomputable def outline (edges : List (FrameEdge α)) : List (FrameEdge ℝ) :=
  edges.map fun e => ⟨e.parent, e.child, Transform.identity⟩

theorem mem_outline {edges : List (FrameEdge α)} {e : FrameEdge α} (he : e ∈ edges) :
    ⟨e.parent, e.child, Transform.identity⟩ ∈ outline edges :=
  List.mem_map_of_mem he

theorem ends_outline (edges : List (FrameEdge α)) :
    (outline edges).map (fun e => s(e.parent, e.child)) =
      edges.map fun e => s(e.parent, e.child) := by
  simp [outline]

variable [Scalar α] {edges edges' : List (FrameEdge α)} {a b : String} {t u : Transform α}

/-! ## Crossings of a forest -/

omit [Scalar α] in
theorem proper_of_forest (hforest : IsForest (outline edges)) {e : FrameEdge α} (he : e ∈ edges) :
    e.parent ≠ e.child :=
  hforest.proper _ (mem_outline he)

omit [Scalar α] in
theorem eq_of_same_ends (hforest : IsForest (outline edges)) {e f : FrameEdge α} (he : e ∈ edges)
    (hf : f ∈ edges) (hends : s(e.parent, e.child) = s(f.parent, f.child)) : e = f := by
  have hdistinct := hforest.distinct
  rw [ends_outline] at hdistinct
  exact List.inj_on_of_nodup_map hdistinct he hf hends

/-- Two frames are joined by one edge at most, which is crossed in one direction. -/
theorem Crosses.unique (hforest : IsForest (outline edges)) (ht : Crosses edges a t b)
    (hu : Crosses edges a u b) : t = u := by
  have hends : ∀ {v : Transform α}, Crosses edges a v b →
      ∃ e ∈ edges, s(a, b) = s(e.parent, e.child) ∧
        (a = e.parent ∧ v = e.transform ∨ a = e.child ∧ v = e.transform.invert) := by
    intro v hcross
    cases hcross with
    | down e he => exact ⟨e, he, rfl, .inl ⟨rfl, rfl⟩⟩
    | up e he => exact ⟨e, he, Sym2.eq_swap, .inr ⟨rfl, rfl⟩⟩
  obtain ⟨e, he, hab, hside⟩ := hends ht
  obtain ⟨f, hf, hab', hside'⟩ := hends hu
  obtain rfl := eq_of_same_ends hforest he hf (hab.symm.trans hab')
  have hproper := proper_of_forest hforest he
  rcases hside with ⟨hat, rfl⟩ | ⟨hat, rfl⟩ <;> rcases hside' with ⟨hau, rfl⟩ | ⟨hau, rfl⟩
  · rfl
  · exact absurd (hat.symm.trans hau) hproper
  · exact absurd (hau.symm.trans hat) hproper
  · rfl

theorem Crosses.adj (hforest : IsForest (outline edges)) (hcross : Crosses edges a t b) :
    (undirected (outline edges)).Adj a b := by
  cases hcross with
  | down e he =>
      have hmem := mem_outline he
      exact (SimpleGraph.fromEdgeSet_adj _).mpr ⟨⟨_, hmem, rfl⟩, proper_of_forest hforest he⟩
  | up e he =>
      have hmem := mem_outline he
      exact (SimpleGraph.fromEdgeSet_adj _).mpr
        ⟨⟨_, hmem, Sym2.eq_swap⟩, (proper_of_forest hforest he).symm⟩

theorem exists_crosses (hadj : (undirected (outline edges)).Adj a b) :
    ∃ t, Crosses edges a t b := by
  obtain ⟨e', he', hends⟩ := undirected_adj hadj
  obtain ⟨e, he, rfl⟩ := List.mem_map.mp he'
  rcases Sym2.eq_iff.mp hends with ⟨rfl, rfl⟩ | ⟨rfl, rfl⟩
  · exact ⟨_, .down e he⟩
  · exact ⟨_, .up e he⟩

/-! ## Routes as walks -/

/-- The transforms stand for the steps of a walk one by one. -/
def Follows (edges : List (FrameEdge α)) {a b : String}
    (walk : (undirected (outline edges)).Walk a b) (ts : List (Transform α)) : Prop :=
  List.Forall₂ (fun step t => Crosses edges step.fst t step.snd) walk.darts ts

theorem Route.exists_walk (hforest : IsForest (outline edges)) {ts : List (Transform α)}
    (hroute : Route edges a ts b) :
    ∃ walk : (undirected (outline edges)).Walk a b, Follows edges walk ts := by
  induction hroute with
  | stay => exact ⟨.nil, .nil⟩
  | @cross ts near far t hprior hcross ih =>
      obtain ⟨walk, hfollows⟩ := ih
      refine ⟨walk.concat (hcross.adj hforest), ?_⟩
      unfold Follows
      rw [SimpleGraph.Walk.darts_concat, List.concat_eq_append]
      exact List.rel_append hfollows (.cons hcross .nil)

theorem exists_route (walk : (undirected (outline edges)).Walk a b) :
    ∃ ts, Route edges a ts b ∧ ts.length = walk.length := by
  induction walk with
  | nil => exact ⟨[], .stay, rfl⟩
  | cons hadj rest ih =>
      obtain ⟨t, hcross⟩ := exists_crosses hadj
      obtain ⟨ts, hroute, hlength⟩ := ih
      exact ⟨[t] ++ ts, (Route.stay.cross hcross).trans hroute, by simp [hlength]⟩

theorem Follows.length_eq {walk : (undirected (outline edges)).Walk a b}
    {ts : List (Transform α)} (hfollows : Follows edges walk ts) : walk.length = ts.length := by
  rw [← SimpleGraph.Walk.length_darts]
  exact List.Forall₂.length_eq hfollows

theorem Follows.unique (hforest : IsForest (outline edges))
    {walk : (undirected (outline edges)).Walk a b} {ts us : List (Transform α)}
    (hts : Follows edges walk ts) (hus : Follows edges walk us) : ts = us :=
  List.right_unique_forall₂' (fun _ _ _ ht hu => ht.unique hforest hu) hts hus

/-- No route is shorter, so no walk is, and a walk that no other undercuts is a path. -/
theorem isPath_of_shortest {ts : List (Transform α)}
    (hshortest : ∀ us, Route edges a us b → ts.length ≤ us.length)
    {walk : (undirected (outline edges)).Walk a b} (hfollows : Follows edges walk ts) :
    walk.IsPath := by
  apply walk.isPath_of_length_eq_dist
  obtain ⟨best, hbest⟩ := SimpleGraph.Reachable.exists_walk_length_eq_dist ⟨walk⟩
  obtain ⟨us, hroute, hlength⟩ := exists_route best
  have hle : walk.length ≤ best.length := by
    rw [hfollows.length_eq, ← hlength]
    exact hshortest us hroute
  exact le_antisymm (hle.trans_eq hbest) (SimpleGraph.dist_le walk)

theorem ShortestRoute.unique (hforest : IsForest (outline edges))
    (ht : ShortestRoute edges a b t) (hu : ShortestRoute edges a b u) : t = u := by
  obtain ⟨ts, htroute, rfl, htshortest⟩ := ht
  obtain ⟨us, huroute, rfl, hushortest⟩ := hu
  obtain ⟨walk, htwalk⟩ := htroute.exists_walk hforest
  obtain ⟨walk', huwalk⟩ := huroute.exists_walk hforest
  have hsame : (⟨walk, isPath_of_shortest htshortest htwalk⟩ :
      (undirected (outline edges)).Path a b) = ⟨walk', isPath_of_shortest hushortest huwalk⟩ :=
    (hforest.acyclic.subsingleton_path a b).elim _ _
  obtain rfl : walk = walk' := congrArg Subtype.val hsame
  rw [htwalk.unique hforest huwalk]

/-! ## Lookups -/

theorem LookedUp.unique (hforest : IsForest (outline edges)) {x y : FrameAnswer α}
    (hx : LookedUp edges a b x) (hy : LookedUp edges a b y) : x = y := by
  cases hx with
  | same heq =>
      cases hy with
      | same _ => rfl
      | unknownTarget hne _ | unknownSource hne _ _ | connected hne _ _ _ _
      | apart hne _ _ _ => exact absurd heq hne
  | unknownTarget hne ha =>
      cases hy with
      | unknownTarget _ _ => rfl
      | same heq => exact absurd heq hne
      | unknownSource _ ha' _ | connected _ ha' _ _ _ | apart _ ha' _ _ => exact absurd ha' ha
  | unknownSource hne ha hb =>
      cases hy with
      | unknownSource _ _ _ => rfl
      | same heq => exact absurd heq hne
      | unknownTarget _ ha' => exact absurd ha ha'
      | connected _ _ hb' _ _ | apart _ _ hb' _ => exact absurd hb' hb
  | connected hne ha hb t ht =>
      cases hy with
      | connected _ _ _ u hu => rw [ht.unique hforest hu]
      | same heq => exact absurd heq hne
      | unknownTarget _ ha' => exact absurd ha ha'
      | unknownSource _ _ hb' => exact absurd hb hb'
      | apart _ _ _ hnone =>
          obtain ⟨ts, hroute, _⟩ := ht
          exact absurd hroute (hnone ts)
  | apart hne ha hb hnone =>
      cases hy with
      | apart _ _ _ _ => rfl
      | same heq => exact absurd heq hne
      | unknownTarget _ ha' => exact absurd ha ha'
      | unknownSource _ _ hb' => exact absurd hb hb'
      | connected _ _ _ u hu =>
          obtain ⟨us, hroute, _⟩ := hu
          exact absurd hroute (hnone us)

/-- What an answer says about edges it says about the same edges in any order. -/
theorem LookedUp.perm (hperm : edges'.Perm edges) {x : FrameAnswer α}
    (hx : LookedUp edges' a b x) : LookedUp edges a b x := by
  have hto : edges' ⊆ edges := hperm.subset
  have hback : edges ⊆ edges' := hperm.symm.subset
  cases hx with
  | same heq => exact .same heq
  | unknownTarget hne ha => exact .unknownTarget hne fun h => ha (h.mono hback)
  | unknownSource hne ha hb => exact .unknownSource hne (ha.mono hto) fun h => hb (h.mono hback)
  | connected hne ha hb t ht =>
      obtain ⟨ts, hroute, hproduct, hshortest⟩ := ht
      exact .connected hne (ha.mono hto) (hb.mono hto) t
        ⟨ts, hroute.mono hto, hproduct, fun us h => hshortest us (h.mono hback)⟩
  | apart hne ha hb hnone =>
      exact .apart hne (ha.mono hto) (hb.mono hto) fun ts h => hnone ts (h.mono hback)

/-! ## The list of frames -/

theorem nodup_eraseDups (names : List String) : names.eraseDups.Nodup := by
  cases names with
  | nil => exact List.nodup_nil
  | cons name rest =>
      rw [List.eraseDups_cons]
      refine List.nodup_cons.mpr ⟨?_, nodup_eraseDups _⟩
      simp [List.mem_eraseDups]
termination_by names.length
decreasing_by
  have hle := List.length_filter_le (fun other => !other == name) rest
  simp only [List.length_cons]
  omega

omit [Scalar α] in
theorem sortedLT_frames (g : FrameGraph α) : g.frames.SortedLT := by
  have hnodup : g.frames.Nodup := (List.mergeSort_perm _ _).nodup_iff.mpr (nodup_eraseDups _)
  exact List.sortedLE_mergeSort.sortedLT_of_nodup hnodup

theorem mem_frames_iff {g : FrameGraph α} (hg : Records g edges) (frame : String) :
    frame ∈ g.frames ↔ IsFrame edges frame := by
  rw [← hg.hasFrame_iff frame, hasFrame, List.any_eq_true]
  simp [frames, List.mem_eraseDups]

/-! ## Building a graph -/

theorem exists_ofEdges (hproper : ∀ e ∈ edges, e.parent ≠ e.child) :
    ∃ g, ofEdges edges = .ok g := by
  induction edges using List.reverseRecOn with
  | nil => exact ⟨empty, rfl⟩
  | append_singleton edges e ih =>
      obtain ⟨g, hg⟩ := ih fun e' he' => hproper e' (List.mem_append_left _ he')
      refine ⟨⟨g.links ++ [⟨e.parent, e.child, e.transform⟩,
        ⟨e.child, e.parent, e.transform.invert⟩]⟩, ?_⟩
      rw [ofEdges_concat, hg]
      exact if_neg (hproper e (by simp))

/-- The edges of a forest give the same graph to look at in whatever order they are added. -/
theorem lookup_ignores_order (hforest : IsForest (outline edges)) (hperm : edges'.Perm edges) :
    ∃ g g', ofEdges edges = .ok g ∧ ofEdges edges' = .ok g' ∧
      (∀ target source, g'.lookup target source = g.lookup target source) ∧
      g'.frames = g.frames := by
  obtain ⟨g, hbuild⟩ := exists_ofEdges fun e he => proper_of_forest hforest he
  obtain ⟨g', hbuild'⟩ := exists_ofEdges fun e he => proper_of_forest hforest (hperm.subset he)
  have hg := records_ofEdges hbuild
  have hg' := records_ofEdges hbuild'
  refine ⟨g, g', hbuild, hbuild', fun target source => ?_, ?_⟩
  · exact ((lookedUp_lookup hg' target source).perm hperm).unique hforest
      (lookedUp_lookup hg target source)
  · apply (sortedLT_frames g').eq_of_mem_iff (sortedLT_frames g)
    intro frame
    rw [mem_frames_iff hg', mem_frames_iff hg]
    exact ⟨fun h => h.mono hperm.subset, fun h => h.mono hperm.symm.subset⟩

/-- A vehicle with a camera on a mount and a scanner, and a pair of frames apart from them. -/
def branches : List (FrameEdge Float) :=
  [⟨"mount", "camera", .rigid Mat3.identity ⟨0, 1, 0⟩⟩,
    ⟨"base_link", "mount", .rigid Mat3.identity ⟨1, 0, 0⟩⟩,
    ⟨"base_link", "scanner", .rigid Mat3.identity ⟨0, 0, 1⟩⟩,
    ⟨"odom", "imu", .identity⟩]

theorem isForest_branches : IsForest (outline branches) := by
  have hnew {e : FrameEdge ℝ} {edges : List (FrameEdge ℝ)} (hforest : IsForest edges)
      (hchild : ¬IsFrame edges e.child) (hproper : e.child ≠ e.parent) : IsForest (e :: edges) :=
    isForest_cons_iff.mpr ⟨hforest, fun h => hproper (eq_of_reachable h.symm hchild)⟩
  refine hnew (hnew (hnew (hnew isForest_nil ?_ ?_) ?_ ?_) ?_ ?_) ?_ ?_ <;>
    simp [IsFrame]

theorem lookup_ignores_order_branches :
    ∃ g g' t, ofEdges branches = .ok g ∧ ofEdges branches.reverse = .ok g' ∧
      g.lookup "scanner" "camera" = .found t ∧ g'.lookup "scanner" "camera" = .found t := by
  obtain ⟨g, g', hbuild, hbuild', hsame, -⟩ :=
    lookup_ignores_order isForest_branches (List.reverse_perm branches)
  have hfirst : Route branches "scanner" [_] "base_link" :=
    .cross .stay (.up ⟨"base_link", "scanner", _⟩ (.tail _ (.tail _ (.head _))))
  have hroute : Route branches "scanner" _ "camera" :=
    (hfirst.cross (.down ⟨"base_link", "mount", _⟩ (.tail _ (.head _)))).cross
      (.down ⟨"mount", "camera", _⟩ (.head _))
  have hscanner : IsFrame branches "scanner" := by simp [IsFrame, branches]
  have hcamera : IsFrame branches "camera" := by simp [IsFrame, branches]
  obtain ⟨t, hfound⟩ := (lookup_found_iff (records_ofEdges hbuild)).mpr
    (.inr ⟨hscanner, hcamera, _, hroute⟩)
  exact ⟨g, g', t, hbuild, hbuild', hfound, (hsame _ _).trans hfound⟩

end FrameGraph
end Fiducial
