import Fiducial.FrameGraph
import Mathlib.Tactic

/-!
# Routes between frames

Every transform that is added to a frame graph is an edge, which can be crossed from the parent to
the child and, with the inverse transform, from the child to the parent.  A route is a sequence of
crossings, and the transforms along it multiply to the pose of its last frame in its first.

The search is breadth first.  Its queue consists of links out of frames at one depth, then of links
out of frames one deeper.  Every frame up to the depth is reached, and every link from a reached
frame to another waits in the queue, so the first link that leads to the goal ends a route that no
other route undercuts, and if the queue runs dry there is no route at all.
-/

namespace Fiducial

/-- A transform given to `add`: the pose of the child in the parent. -/
structure FrameEdge (α : Type) where
  parent : String
  child : String
  transform : Transform α

namespace FrameGraph

variable {α : Type} [Scalar α]

/-- The graph after a sequence of additions, provided that none of them fails. -/
def ofEdges (edges : List (FrameEdge α)) : Except Fault (FrameGraph α) :=
  edges.foldlM (fun g e => g.add e.parent e.child e.transform) empty

/-! ## Routes -/

def IsFrame (edges : List (FrameEdge α)) (frame : String) : Prop :=
  ∃ e ∈ edges, frame = e.parent ∨ frame = e.child

/-- An edge crossed in either direction, with the pose of the far frame in the near one. -/
inductive Crosses (edges : List (FrameEdge α)) : String → Transform α → String → Prop
  | down (e : FrameEdge α) (he : e ∈ edges) : Crosses edges e.parent e.transform e.child
  | up (e : FrameEdge α) (he : e ∈ edges) : Crosses edges e.child e.transform.invert e.parent

/-- The transforms of the crossings from one frame to another. -/
inductive Route (edges : List (FrameEdge α)) (start : String) : List (Transform α) → String → Prop
  | stay : Route edges start [] start
  | cross {ts : List (Transform α)} {near far : String} {t : Transform α}
      (hroute : Route edges start ts near) (hcross : Crosses edges near t far) :
      Route edges start (ts ++ [t]) far

/-- The product of the transforms of a route, from left to right. -/
def along (ts : List (Transform α)) : Transform α := ts.foldl Transform.compose Transform.identity

theorem along_concat (ts : List (Transform α)) (t : Transform α) :
    along (ts ++ [t]) = (along ts).compose t := by
  simp [along]

/-- A transform found along a route that has no more crossings than any other. -/
def ShortestRoute (edges : List (FrameEdge α)) (start goal : String) (t : Transform α) : Prop :=
  ∃ ts, Route edges start ts goal ∧ t = along ts ∧
    ∀ us, Route edges start us goal → ts.length ≤ us.length

section Routes

variable {edges : List (FrameEdge α)} {a b c : String}

theorem Route.eq_start {ts : List (Transform α)} (hroute : Route edges a ts b)
    (hlength : ts.length ≤ 0) : b = a := by
  cases hroute with
  | stay => rfl
  | cross hprior hcross => simp at hlength

theorem Route.trans {ts us : List (Transform α)} (hab : Route edges a ts b)
    (hbc : Route edges b us c) : Route edges a (ts ++ us) c := by
  induction hbc with
  | stay => simpa using hab
  | cross hprior hcross ih =>
      rw [← List.append_assoc]
      exact ih.cross hcross

theorem Crosses.isFrame {t : Transform α} (hcross : Crosses edges a t b) :
    IsFrame edges a ∧ IsFrame edges b := by
  cases hcross with
  | down e he => exact ⟨⟨e, he, .inl rfl⟩, ⟨e, he, .inr rfl⟩⟩
  | up e he => exact ⟨⟨e, he, .inr rfl⟩, ⟨e, he, .inl rfl⟩⟩

theorem Crosses.turned {t : Transform α} (hcross : Crosses edges a t b) :
    ∃ u, Crosses edges b u a := by
  cases hcross with
  | down e he => exact ⟨e.transform.invert, .up e he⟩
  | up e he => exact ⟨e.transform, .down e he⟩

theorem Route.turned {ts : List (Transform α)} (hroute : Route edges a ts b) :
    ∃ us, Route edges b us a := by
  induction hroute with
  | stay => exact ⟨[], .stay⟩
  | cross hprior hcross ih =>
      obtain ⟨us, hback⟩ := ih
      obtain ⟨u, hturned⟩ := hcross.turned
      exact ⟨[u] ++ us, (Route.stay.cross hturned).trans hback⟩

variable {edges' : List (FrameEdge α)}

theorem Route.mono (hsubset : edges ⊆ edges') {ts : List (Transform α)}
    (hroute : Route edges a ts b) : Route edges' a ts b := by
  induction hroute with
  | stay => exact .stay
  | cross hprior hcross ih =>
      cases hcross with
      | down e he => exact ih.cross (.down e (hsubset he))
      | up e he => exact ih.cross (.up e (hsubset he))

omit [Scalar α] in
theorem IsFrame.mono (hsubset : edges ⊆ edges') (hframe : IsFrame edges a) :
    IsFrame edges' a := by
  obtain ⟨e, he, hend⟩ := hframe
  exact ⟨e, hsubset he, hend⟩

end Routes

/-! ## Links of a graph -/

/-- The links of a graph are the crossings of these edges. -/
def Records (g : FrameGraph α) (edges : List (FrameEdge α)) : Prop :=
  ∀ near far t, (⟨near, far, t⟩ : FrameLink α) ∈ g.links ↔ Crosses edges near t far

theorem records_empty : Records (empty : FrameGraph α) [] := by
  intro near far t
  constructor
  · intro hmem
    cases hmem
  · intro hcross
    cases hcross with
    | down e he => cases he
    | up e he => cases he

theorem Records.concat {g g' : FrameGraph α} {edges : List (FrameEdge α)} {e : FrameEdge α}
    (hg : Records g edges) (hadd : g.add e.parent e.child e.transform = .ok g') :
    Records g' (edges ++ [e]) := by
  unfold add at hadd
  split at hadd
  next => cases hadd
  next =>
    cases hadd
    intro near far t
    simp only [List.mem_append, hg near far t, List.mem_cons, List.not_mem_nil, or_false,
      FrameLink.mk.injEq]
    constructor
    · rintro (⟨e', he'⟩ | ⟨rfl, rfl, rfl⟩ | ⟨rfl, rfl, rfl⟩)
      · exact .down e' (List.mem_append_left _ he')
      · rename_i e' he'
        exact .up e' (List.mem_append_left _ he')
      · exact .down e (by simp)
      · exact .up e (by simp)
    · rintro (⟨e', he'⟩ | ⟨e', he'⟩)
      · rcases List.mem_append.mp he' with hold | hnew
        · exact .inl (.down e' hold)
        · cases List.mem_singleton.mp hnew
          exact .inr (.inl ⟨rfl, rfl, rfl⟩)
      · rcases List.mem_append.mp he' with hold | hnew
        · exact .inl (.up e' hold)
        · cases List.mem_singleton.mp hnew
          exact .inr (.inr ⟨rfl, rfl, rfl⟩)

theorem ofEdges_concat (edges : List (FrameEdge α)) (e : FrameEdge α) :
    ofEdges (edges ++ [e]) =
      (ofEdges edges).bind fun g => g.add e.parent e.child e.transform := by
  simp only [ofEdges, List.foldlM_append, List.foldlM_cons, List.foldlM_nil, bind_pure]
  rfl

theorem records_ofEdges {edges : List (FrameEdge α)} {g : FrameGraph α}
    (hbuild : ofEdges edges = .ok g) : Records g edges := by
  induction edges using List.reverseRecOn generalizing g with
  | nil =>
      cases hbuild
      exact records_empty
  | append_singleton edges e ih =>
      rw [ofEdges_concat] at hbuild
      cases hprior : ofEdges edges with
      | error f =>
          rw [hprior] at hbuild
          cases hbuild
      | ok g₀ =>
          rw [hprior] at hbuild
          exact (ih hprior).concat hbuild

theorem Records.hasFrame_iff {g : FrameGraph α} {edges : List (FrameEdge α)}
    (hg : Records g edges) (frame : String) : g.hasFrame frame = true ↔ IsFrame edges frame := by
  unfold hasFrame IsFrame
  rw [List.any_eq_true]
  constructor
  · rintro ⟨⟨near, far, t⟩, hmem, hnear⟩
    have hsame : near = frame := by simpa using hnear
    subst hsame
    cases (hg near far t).mp hmem with
    | down e he => exact ⟨e, he, .inl rfl⟩
    | up e he => exact ⟨e, he, .inr rfl⟩
  · rintro ⟨e, he, rfl | rfl⟩
    · exact ⟨_, (hg _ _ _).mpr (.down e he), by simp⟩
    · exact ⟨_, (hg _ _ _).mpr (.up e he), by simp⟩

/-! ## The state of a search -/

/-- The links that wait, each with the product along a route of `depth` crossings to its near
frame. -/
def Waiting (g : FrameGraph α) (edges : List (FrameEdge α)) (start : String) (depth : Nat)
    (queue : List (FrameLink α × Transform α)) : Prop :=
  ∀ q ∈ queue, q.1 ∈ g.links ∧
    ∃ ts, Route edges start ts q.1.near ∧ ts.length = depth ∧ q.2 = along ts

/-- A search from `start` that looks for `goal`: the queue is `now ++ next`, with the links out of
frames at `depth` first. -/
structure Searching (g : FrameGraph α) (edges : List (FrameEdge α)) (start goal : String)
    (reached : String → Prop) (depth : Nat) (unreached : List (FrameLink α))
    (now next : List (FrameLink α × Transform α)) : Prop where
  reached_start : reached start
  not_reached_goal : ¬reached goal
  mem_unreached : ∀ l, l ∈ unreached ↔ l ∈ g.links ∧ ¬reached l.far
  reached_within : ∀ ts f, Route edges start ts f → ts.length ≤ depth → reached f
  reached_bound : ∀ f, reached f → ∃ ts, Route edges start ts f ∧ ts.length ≤ depth + 1
  now_waiting : Waiting g edges start depth now
  next_waiting : Waiting g edges start (depth + 1) next
  link_waits : ∀ l ∈ g.links, reached l.near → ¬reached l.far → l ∈ (now ++ next).map Prod.fst
  link_waits_now : ∀ l ∈ g.links, ∀ ts, Route edges start ts l.near → ts.length ≤ depth →
    ¬reached l.far → l ∈ now.map Prod.fst

section Searches

variable {g : FrameGraph α} {edges : List (FrameEdge α)} {start goal : String}
  {reached : String → Prop} {depth : Nat} {unreached : List (FrameLink α)}
  {now next : List (FrameLink α × Transform α)}

omit [Scalar α] in
theorem mem_outgoing {frame : String} {pose : Transform α} {q : FrameLink α × Transform α} :
    q ∈ g.outgoing frame pose ↔ q.1 ∈ g.links ∧ q.1.near = frame ∧ q.2 = pose := by
  obtain ⟨l, p⟩ := q
  simp only [outgoing, List.mem_map, List.mem_filter, decide_eq_true_eq, Prod.mk.injEq]
  constructor
  · rintro ⟨l', ⟨hmem, hnear⟩, rfl, rfl⟩
    exact ⟨hmem, hnear, rfl⟩
  · rintro ⟨hmem, hnear, rfl⟩
    exact ⟨l, ⟨hmem, hnear⟩, rfl, rfl⟩

omit [Scalar α] in
theorem mem_leadingElsewhere {links : List (FrameLink α)} {frame : String} {l : FrameLink α} :
    l ∈ leadingElsewhere links frame ↔ l ∈ links ∧ l.far ≠ frame := by
  simp [leadingElsewhere]

theorem searching_start (hne : start ≠ goal) :
    Searching g edges start goal (· = start) 0 (leadingElsewhere g.links start)
      (g.outgoing start Transform.identity) [] := by
  constructor
  case reached_start => rfl
  case not_reached_goal => exact fun h => hne h.symm
  case mem_unreached => exact fun l => mem_leadingElsewhere
  case reached_within => exact fun ts f hroute hlength => hroute.eq_start hlength
  case reached_bound =>
    rintro f rfl
    exact ⟨[], .stay, Nat.zero_le _⟩
  case now_waiting =>
    intro q hq
    obtain ⟨hmem, hnear, hpose⟩ := mem_outgoing.mp hq
    exact ⟨hmem, [], hnear ▸ .stay, rfl, hpose⟩
  case next_waiting => exact fun q hq => nomatch hq
  case link_waits =>
    intro l hl hnear _
    rw [List.append_nil]
    exact List.mem_map.mpr ⟨(l, Transform.identity), mem_outgoing.mpr ⟨hl, hnear, rfl⟩, rfl⟩
  case link_waits_now =>
    intro l hl ts hroute hlength _
    exact List.mem_map.mpr ⟨(l, Transform.identity),
      mem_outgoing.mpr ⟨hl, hroute.eq_start hlength, rfl⟩, rfl⟩

theorem Searching.reached_next (hg : Records g edges)
    (h : Searching g edges start goal reached depth unreached [] next) {ts : List (Transform α)}
    {f : String} (hroute : Route edges start ts f) (hlength : ts.length ≤ depth + 1) :
    reached f := by
  cases hroute with
  | stay => exact h.reached_start
  | @cross ts near far t hprior hcross =>
      have hshorter : ts.length ≤ depth := by simpa using hlength
      by_contra hfar
      have hwaits := h.link_waits_now ⟨near, f, t⟩ ((hg _ _ _).mpr hcross) ts hprior hshorter hfar
      cases hwaits

/-- When no link out of a frame at this depth is left, the search is one deeper. -/
theorem Searching.deeper (hg : Records g edges)
    (h : Searching g edges start goal reached depth unreached [] next) :
    Searching g edges start goal reached (depth + 1) unreached next [] where
  reached_start := h.reached_start
  not_reached_goal := h.not_reached_goal
  mem_unreached := h.mem_unreached
  reached_within := fun ts f hroute hlength => h.reached_next hg hroute hlength
  reached_bound := by
    intro f hf
    obtain ⟨ts, hroute, hlength⟩ := h.reached_bound f hf
    exact ⟨ts, hroute, by omega⟩
  now_waiting := h.next_waiting
  next_waiting := fun q hq => nomatch hq
  link_waits := by
    intro l hl hnear hfar
    simpa using h.link_waits l hl hnear hfar
  link_waits_now := by
    intro l hl ts hroute hlength hfar
    simpa using h.link_waits l hl (h.reached_next hg hroute hlength) hfar

/-- The head of the queue can be taken for a link out of a frame at the depth of the search. -/
theorem Searching.head_now (hg : Records g edges)
    (h : Searching g edges start goal reached depth unreached now next)
    {q : FrameLink α × Transform α} {rest : List (FrameLink α × Transform α)}
    (hqueue : q :: rest = now ++ next) :
    ∃ depth' now' next', rest = now' ++ next' ∧
      Searching g edges start goal reached depth' unreached (q :: now') next' := by
  cases now with
  | cons q' now' =>
      cases hqueue
      exact ⟨depth, now', next, rfl, h⟩
  | nil =>
      rw [List.nil_append] at hqueue
      subst hqueue
      exact ⟨depth + 1, rest, [], (List.append_nil rest).symm, h.deeper hg⟩

variable {link : FrameLink α} {pose : Transform α}

theorem Searching.any_unreached_iff
    (h : Searching g edges start goal reached depth unreached ((link, pose) :: now) next) :
    unreached.any (·.far = link.far) = true ↔ ¬reached link.far := by
  rw [List.any_eq_true]
  constructor
  · rintro ⟨l, hl, hfar⟩
    have hsame : l.far = link.far := by simpa using hfar
    rw [← hsame]
    exact ((h.mem_unreached l).mp hl).2
  · intro hfar
    have hlink := (h.now_waiting (link, pose) List.mem_cons_self).1
    exact ⟨link, (h.mem_unreached link).mpr ⟨hlink, hfar⟩, by simp⟩

/-- A link to a frame that is reached already can be dropped. -/
theorem Searching.skip
    (h : Searching g edges start goal reached depth unreached ((link, pose) :: now) next)
    (hreached : reached link.far) :
    Searching g edges start goal reached depth unreached now next where
  reached_start := h.reached_start
  not_reached_goal := h.not_reached_goal
  mem_unreached := h.mem_unreached
  reached_within := h.reached_within
  reached_bound := h.reached_bound
  now_waiting := fun q hq => h.now_waiting q (List.mem_cons_of_mem _ hq)
  next_waiting := h.next_waiting
  link_waits := by
    intro l hl hnear hfar
    have hwaits := h.link_waits l hl hnear hfar
    have hother : l ≠ link := fun heq => hfar (heq ▸ hreached)
    simpa [hother] using hwaits
  link_waits_now := by
    intro l hl ts hroute hlength hfar
    have hwaits := h.link_waits_now l hl ts hroute hlength hfar
    have hother : l ≠ link := fun heq => hfar (heq ▸ hreached)
    simpa [hother] using hwaits

/-- The route to the far frame of the head of the queue. -/
theorem Searching.route_far (hg : Records g edges)
    (h : Searching g edges start goal reached depth unreached ((link, pose) :: now) next) :
    ∃ ts, Route edges start ts link.far ∧ ts.length = depth + 1 ∧
      pose.compose link.transform = along ts := by
  obtain ⟨hlink, ts, hroute, hlength, hpose⟩ := h.now_waiting (link, pose) List.mem_cons_self
  have hcross : Crosses edges link.near link.transform link.far := (hg _ _ _).mp hlink
  refine ⟨ts ++ [link.transform], hroute.cross hcross, by simp [hlength], ?_⟩
  rw [along_concat, ← hpose]

/-- No frame that is not reached has a route as short as the depth. -/
theorem Searching.shortest_of_goal (hg : Records g edges)
    (h : Searching g edges start goal reached depth unreached ((link, pose) :: now) next)
    (hgoal : link.far = goal) :
    ShortestRoute edges start goal (pose.compose link.transform) := by
  obtain ⟨ts, hroute, hlength, hpose⟩ := h.route_far hg
  refine ⟨ts, hgoal ▸ hroute, hpose, ?_⟩
  intro us hother
  by_contra hshorter
  exact h.not_reached_goal (h.reached_within us goal hother (by omega))

/-- Crossing the head of the queue reaches its far frame, whose links wait for the next depth. -/
theorem Searching.cross (hg : Records g edges)
    (h : Searching g edges start goal reached depth unreached ((link, pose) :: now) next)
    (hgoal : link.far ≠ goal) :
    Searching g edges start goal (fun f => reached f ∨ f = link.far) depth
      (leadingElsewhere unreached link.far) now
      (next ++ g.outgoing link.far (pose.compose link.transform)) where
  reached_start := .inl h.reached_start
  not_reached_goal := by
    rintro (hreached | hsame)
    · exact h.not_reached_goal hreached
    · exact hgoal hsame.symm
  mem_unreached := by
    intro l
    rw [mem_leadingElsewhere, h.mem_unreached l]
    tauto
  reached_within := fun ts f hroute hlength => .inl (h.reached_within ts f hroute hlength)
  reached_bound := by
    rintro f (hf | rfl)
    · exact h.reached_bound f hf
    · obtain ⟨ts, hroute, hlength, _⟩ := h.route_far hg
      exact ⟨ts, hroute, le_of_eq hlength⟩
  now_waiting := fun q hq => h.now_waiting q (List.mem_cons_of_mem _ hq)
  next_waiting := by
    intro q hq
    rcases List.mem_append.mp hq with hold | hout
    · exact h.next_waiting q hold
    · obtain ⟨hmem, hnear, hpose⟩ := mem_outgoing.mp hout
      obtain ⟨ts, hroute, hlength, hproduct⟩ := h.route_far hg
      exact ⟨hmem, ts, hnear ▸ hroute, hlength, hpose.trans hproduct⟩
  link_waits := by
    intro l hl hnear hfar
    obtain ⟨hunreached, hother⟩ := not_or.mp hfar
    have hne : l ≠ link := fun heq => hother (heq ▸ rfl)
    rcases hnear with hold | hsame
    · have hwaits := h.link_waits l hl hold hunreached
      have hrest : l ∈ (now ++ next).map Prod.fst := by simpa [hne] using hwaits
      rw [← List.append_assoc, List.map_append]
      exact List.mem_append_left _ hrest
    · have hout : (l, pose.compose link.transform) ∈
          g.outgoing link.far (pose.compose link.transform) := mem_outgoing.mpr ⟨hl, hsame, rfl⟩
      rw [← List.append_assoc, List.map_append]
      exact List.mem_append_right _ (List.mem_map.mpr ⟨_, hout, rfl⟩)
  link_waits_now := by
    intro l hl ts hroute hlength hfar
    obtain ⟨hunreached, hother⟩ := not_or.mp hfar
    have hne : l ≠ link := fun heq => hother (heq ▸ rfl)
    simpa [hne] using h.link_waits_now l hl ts hroute hlength hunreached

/-- When nothing waits, every frame with a route is reached, and so the goal has none. -/
theorem Searching.no_route (hg : Records g edges)
    (h : Searching g edges start goal reached depth unreached [] []) (ts : List (Transform α)) :
    ¬Route edges start ts goal := by
  have hall : ∀ us f, Route edges start us f → reached f := by
    intro us f hroute
    induction hroute with
    | stay => exact h.reached_start
    | @cross us near far t hprior hcross ih =>
        by_contra hfar
        have hwaits := h.link_waits ⟨near, far, t⟩ ((hg _ _ _).mpr hcross) ih hfar
        cases hwaits
  exact fun hroute => h.not_reached_goal (hall ts goal hroute)

/-- What a search comes to: a shortest route, or that there is none. -/
inductive Searched (edges : List (FrameEdge α)) (start goal : String) :
    Option (Transform α) → Prop
  | found (t : Transform α) (hshortest : ShortestRoute edges start goal t) :
      Searched edges start goal (some t)
  | missing (hnone : ∀ ts, ¬Route edges start ts goal) : Searched edges start goal none

theorem searched_search (hg : Records g edges) {queue : List (FrameLink α × Transform α)}
    (h : Searching g edges start goal reached depth unreached now next)
    (hqueue : queue = now ++ next) :
    Searched edges start goal (g.search goal unreached queue) := by
  fun_induction search g goal unreached queue generalizing reached depth now next
  case case1 unreached =>
    obtain ⟨rfl, rfl⟩ := List.append_eq_nil_iff.mp hqueue.symm
    exact .missing (h.no_route hg)
  case case2 unreached link pose rest hany here hgoal =>
    obtain ⟨depth', now', next', _, h'⟩ := h.head_now hg hqueue
    exact .found _ (h'.shortest_of_goal hg hgoal)
  case case3 unreached link pose rest hany here hgoal ih =>
    obtain ⟨depth', now', next', hrest, h'⟩ := h.head_now hg hqueue
    exact ih (h'.cross hg hgoal) (by rw [hrest, List.append_assoc])
  case case4 unreached link pose rest hany ih =>
    obtain ⟨depth', now', next', hrest, h'⟩ := h.head_now hg hqueue
    have hreached : reached link.far := by
      by_contra hnew
      exact hany (h'.any_unreached_iff.mpr hnew)
    exact ih (h'.skip hreached) hrest

end Searches

/-! ## Lookups -/

/-- The answers that a lookup can have. -/
inductive LookedUp (edges : List (FrameEdge α)) (target source : String) : FrameAnswer α → Prop
  | same (heq : target = source) : LookedUp edges target source (.found Transform.identity)
  | unknownTarget (hne : target ≠ source) (htarget : ¬IsFrame edges target) :
      LookedUp edges target source (.missing
        ("\"" ++ target ++
          "\" passed to lookupTransform argument target_frame does not exist"))
  | unknownSource (hne : target ≠ source) (htarget : IsFrame edges target)
      (hsource : ¬IsFrame edges source) :
      LookedUp edges target source (.missing
        ("\"" ++ source ++
          "\" passed to lookupTransform argument source_frame does not exist"))
  | connected (hne : target ≠ source) (htarget : IsFrame edges target)
      (hsource : IsFrame edges source) (t : Transform α)
      (hshortest : ShortestRoute edges target source t) :
      LookedUp edges target source (.found t)
  | apart (hne : target ≠ source) (htarget : IsFrame edges target)
      (hsource : IsFrame edges source) (hnone : ∀ ts, ¬Route edges target ts source) :
      LookedUp edges target source (.missing
        (target ++ " and " ++ source ++ " are not part of the same tree"))

theorem lookedUp_lookup {g : FrameGraph α} {edges : List (FrameEdge α)} (hg : Records g edges)
    (target source : String) : LookedUp edges target source (g.lookup target source) := by
  unfold lookup
  by_cases heq : target = source
  · rw [if_pos heq]
    exact .same heq
  rw [if_neg heq]
  by_cases htarget : g.hasFrame target = true
  case neg =>
    simp only [htarget, Bool.not_false, if_true]
    exact .unknownTarget heq fun h => htarget ((hg.hasFrame_iff target).mpr h)
  by_cases hsource : g.hasFrame source = true
  case neg =>
    simp only [htarget, hsource, Bool.not_true, Bool.not_false, Bool.false_eq_true, if_false,
      if_true]
    exact .unknownSource heq ((hg.hasFrame_iff target).mp htarget)
      fun h => hsource ((hg.hasFrame_iff source).mpr h)
  have hsearched := searched_search hg (searching_start heq) (List.append_nil _).symm
  simp only [htarget, hsource, Bool.not_true, Bool.false_eq_true, if_false]
  have hframes :=
    And.intro ((hg.hasFrame_iff target).mp htarget) ((hg.hasFrame_iff source).mp hsource)
  cases hresult : g.search source (leadingElsewhere g.links target)
      (g.outgoing target Transform.identity) with
  | some t =>
      rw [hresult] at hsearched
      cases hsearched with
      | found t hshortest => exact .connected heq hframes.1 hframes.2 t hshortest
  | none =>
      rw [hresult] at hsearched
      cases hsearched with
      | missing hnone => exact .apart heq hframes.1 hframes.2 hnone

section Lookups

variable {g : FrameGraph α} {edges : List (FrameEdge α)} {target source : String}

theorem lookup_found_iff (hg : Records g edges) :
    (∃ t, g.lookup target source = .found t) ↔
      target = source ∨
        (IsFrame edges target ∧ IsFrame edges source ∧ ∃ ts, Route edges target ts source) := by
  have hlooked := lookedUp_lookup hg target source
  generalize g.lookup target source = answer at hlooked
  cases hlooked with
  | same heq => simp [heq]
  | unknownTarget hne htarget => simp [hne, htarget]
  | unknownSource hne htarget hsource => simp [hne, hsource]
  | connected hne htarget hsource t hshortest =>
      obtain ⟨ts, hroute, _⟩ := hshortest
      simp only [FrameAnswer.found.injEq, exists_eq', true_iff]
      exact .inr ⟨htarget, hsource, ts, hroute⟩
  | apart hne htarget hsource hnone => simp [hne, hnone]

theorem found_cases (hg : Records g edges) {t : Transform α}
    (hfound : g.lookup target source = .found t) :
    (target = source ∧ t = Transform.identity) ∨
      (IsFrame edges target ∧ IsFrame edges source ∧ ∃ ts, Route edges target ts source) := by
  have hlooked := lookedUp_lookup hg target source
  rw [hfound] at hlooked
  cases hlooked with
  | same heq => exact .inl ⟨heq, rfl⟩
  | connected hne htarget hsource _ hshortest =>
      obtain ⟨ts, hroute, _⟩ := hshortest
      exact .inr ⟨htarget, hsource, ts, hroute⟩

theorem lookup_shortest (hg : Records g edges) (hne : target ≠ source) {t : Transform α}
    (hfound : g.lookup target source = .found t) : ShortestRoute edges target source t := by
  have hlooked := lookedUp_lookup hg target source
  rw [hfound] at hlooked
  cases hlooked with
  | same heq => exact absurd heq hne
  | connected _ _ _ _ hshortest => exact hshortest

end Lookups

/-- What the lookups in a graph of these edges find. -/
structure FindsRoutes (edges : List (FrameEdge α)) (g : FrameGraph α) : Prop where
  returns : ∀ target source, (∃ t, g.lookup target source = .found t) ∨
    ∃ why, g.lookup target source = .missing why
  found_iff : ∀ target source, (∃ t, g.lookup target source = .found t) ↔
    target = source ∨
      (IsFrame edges target ∧ IsFrame edges source ∧ ∃ ts, Route edges target ts source)
  found_symm : ∀ target source, (∃ t, g.lookup target source = .found t) ↔
    ∃ t, g.lookup source target = .found t
  itself : ∀ frame, g.lookup frame frame = .found Transform.identity
  shortest : ∀ target source t, target ≠ source → g.lookup target source = .found t →
    ShortestRoute edges target source t
  unknown_target : ∀ target source, target ≠ source → ¬IsFrame edges target →
    g.lookup target source = .missing
      ("\"" ++ target ++ "\" passed to lookupTransform argument target_frame does not exist")
  unknown_source : ∀ target source, target ≠ source → IsFrame edges target →
    ¬IsFrame edges source → g.lookup target source = .missing
      ("\"" ++ source ++ "\" passed to lookupTransform argument source_frame does not exist")
  apart : ∀ target source, target ≠ source → IsFrame edges target → IsFrame edges source →
    (∀ ts, ¬Route edges target ts source) → g.lookup target source = .missing
      (target ++ " and " ++ source ++ " are not part of the same tree")

theorem lookup_finds_routes {edges : List (FrameEdge α)} {g : FrameGraph α}
    (hbuild : ofEdges edges = .ok g) : FindsRoutes edges g := by
  have hg := records_ofEdges hbuild
  constructor
  case returns =>
    intro target source
    have hlooked := lookedUp_lookup hg target source
    generalize g.lookup target source = answer at hlooked
    cases hlooked with
    | same heq => exact .inl ⟨_, rfl⟩
    | connected hne htarget hsource t hshortest => exact .inl ⟨t, rfl⟩
    | _ => exact .inr ⟨_, rfl⟩
  case found_iff => exact fun target source => lookup_found_iff hg
  case found_symm =>
    have hturned : ∀ a b, (∃ t, g.lookup a b = .found t) → ∃ t, g.lookup b a = .found t := by
      intro a b hfound
      apply (lookup_found_iff hg).mpr
      rcases (lookup_found_iff hg).mp hfound with heq | ⟨ha, hb, ts, hroute⟩
      · exact .inl heq.symm
      · exact .inr ⟨hb, ha, hroute.turned⟩
    exact fun target source => ⟨hturned target source, hturned source target⟩
  case itself => exact fun frame => if_pos rfl
  case shortest => exact fun target source t hne hfound => lookup_shortest hg hne hfound
  case unknown_target =>
    intro target source hne htarget
    have hlooked := lookedUp_lookup hg target source
    generalize g.lookup target source = answer at hlooked
    cases hlooked with
    | unknownTarget _ _ => rfl
    | same heq => exact absurd heq hne
    | unknownSource _ h _ | connected _ h _ _ _ | apart _ h _ _ => exact absurd h htarget
  case unknown_source =>
    intro target source hne htarget hsource
    have hlooked := lookedUp_lookup hg target source
    generalize g.lookup target source = answer at hlooked
    cases hlooked with
    | unknownSource _ _ _ => rfl
    | same heq => exact absurd heq hne
    | unknownTarget _ h => exact absurd htarget h
    | connected _ _ h _ _ | apart _ _ h _ => exact absurd h hsource
  case apart =>
    intro target source hne htarget hsource hnone
    have hlooked := lookedUp_lookup hg target source
    generalize g.lookup target source = answer at hlooked
    cases hlooked with
    | apart _ _ _ _ => rfl
    | same heq => exact absurd heq hne
    | unknownTarget _ h => exact absurd htarget h
    | unknownSource _ _ h => exact absurd hsource h
    | connected _ _ _ _ hshortest =>
        obtain ⟨ts, hroute, _⟩ := hshortest
        exact absurd hroute (hnone ts)

/-- A vehicle whose frames form a cycle, and two frames that hang on none of them. -/
def twoParts : List (FrameEdge Float) :=
  [⟨"base_link", "mount", .rigid Mat3.identity ⟨1, 0, 0⟩⟩,
    ⟨"mount", "camera", .rigid Mat3.identity ⟨0, 1, 0⟩⟩,
    ⟨"camera", "base_link", .rigid Mat3.identity ⟨-1, -1, 0⟩⟩,
    ⟨"odom", "imu", .identity⟩]

theorem lookup_finds_routes_two_parts :
    ∃ g t, ofEdges twoParts = .ok g ∧ g.lookup "base_link" "camera" = .found t ∧
      ShortestRoute twoParts "base_link" "camera" t := by
  have hfinds := lookup_finds_routes (g := ⟨_⟩) (rfl : ofEdges twoParts = .ok _)
  have hbase : IsFrame twoParts "base_link" := ⟨_, List.mem_cons_self, .inl rfl⟩
  have hcamera : IsFrame twoParts "camera" :=
    ⟨_, List.mem_cons_of_mem _ List.mem_cons_self, .inr rfl⟩
  have hdirect : Route twoParts "base_link" [_] "camera" :=
    .cross .stay (.up ⟨"camera", "base_link", _⟩
      (List.mem_cons_of_mem _ (List.mem_cons_of_mem _ List.mem_cons_self)))
  obtain ⟨t, hfound⟩ := (hfinds.found_iff "base_link" "camera").mpr
    (.inr ⟨hbase, hcamera, _, hdirect⟩)
  exact ⟨_, t, rfl, hfound, hfinds.shortest _ _ t (by decide) hfound⟩

end FrameGraph
end Fiducial
