import Fiducial.Files.Tree

/-!
# Trees of files that differ in one file

To set a path changes no other path, and to make directories touches no file.  Hence two trees that
differ only in the content of one file are read alike at every other path, the same names lead to
the same paths in both, and directories and other files are made in both or in neither.
-/

namespace Fiducial
namespace FileTree

/-! ## Setting a path -/

@[simp] theorem node?_nil (t : FileTree) : t.node? [] = some .directory := rfl

theorem lookup_filter_of_ne {β : Type} {p q : Path} (hne : q ≠ p) (entries : List (Path × β)) :
    (entries.filter (·.1 ≠ p)).lookup q = entries.lookup q := by
  induction entries with
  | nil => rfl
  | cons e entries ih =>
      by_cases hp : e.1 = p
      · have hq : (q == e.1) = false := by simp [hp, hne]
        rw [List.filter_cons_of_neg (by simp [hp]), ih, List.lookup_cons, hq]
      · rw [List.filter_cons_of_pos (by simp [hp]), List.lookup_cons, List.lookup_cons, ih]

theorem node?_set_of_ne {p q : Path} (hne : q ≠ p) (t : FileTree) (n : FileNode) :
    (t.set p n).node? q = t.node? q := by
  have hq : (q == p) = false := by simp [hne]
  unfold node? set
  rw [List.lookup_cons, hq]
  dsimp only
  rw [lookup_filter_of_ne hne]

theorem node?_set_self {p : Path} (hp : p ≠ []) (t : FileTree) (n : FileNode) :
    (t.set p n).node? p = some n := by
  simp [node?, set, hp]

theorem node?_of_file? {t : FileTree} {p : Path} {d : ByteArray} (hfile : t.file? p = some d) :
    t.node? p = some (.file d) := by
  unfold file? at hfile
  split at hfile
  next hnode =>
    cases hfile
    exact hnode
  next => cases hfile

theorem file?_of_node? {t : FileTree} {p : Path} {d : ByteArray}
    (hnode : t.node? p = some (.file d)) : t.file? p = some d := by
  simp [file?, hnode]

/-- The root is no file. -/
theorem ne_nil_of_file {t : FileTree} {p : Path} {d : ByteArray}
    (hnode : t.node? p = some (.file d)) : p ≠ [] := by
  rintro rfl
  cases hnode

/-- A file is written where no directory is, in a directory. -/
theorem write_ok_iff {t t' : FileTree} {p : Path} {data : ByteArray} :
    t.write p data = .ok t' ↔ t.node? p ≠ some .directory ∧
      t.node? p.parent = some .directory ∧ t' = t.set p (.file data) := by
  unfold write
  split
  next hnode => simp [hnode]
  next hparent hnode =>
    have hnot : t.node? p ≠ some .directory := hnode
    simp [hnot, hparent, eq_comm (a := t')]
  next _ hparent =>
    have hnot : t.node? p.parent ≠ some .directory := hparent
    simp [hnot]

/-! ## Making directories -/

/-- The tree with a directory at a path where there was nothing. -/
def ensure (t : FileTree) (p : Path) : FileTree := if t.exists? p then t else t.set p .directory

theorem makeDirectories_eq (t : FileTree) (p : Path) :
    t.makeDirectories p = match t.node? p with
      | some .directory => .ok t
      | some (.file _) => .error (.fileExists p.text)
      | none =>
        if t.isBlocked p then .error (.notDirectory p.text)
        else .ok (((List.range (p.length + 1)).map fun k => p.take k).foldl ensure t) := by
  rw [List.foldl_map]
  rfl

theorem node?_ensure (t : FileTree) (p q : Path) :
    (t.ensure p).node? q = (t.node? q).or (if q = p then some .directory else none) := by
  unfold ensure exists?
  cases hnode : t.node? p with
  | some n => by_cases hq : q = p <;> simp [hq, hnode]
  | none =>
      have hroot : p ≠ [] := by
        rintro rfl
        cases hnode
      by_cases hq : q = p
      · simp [hq, hnode, node?_set_self hroot]
      · simp [hq, node?_set_of_ne hq]

theorem node?_foldl_ensure (ps : List Path) (t : FileTree) (q : Path) :
    (ps.foldl ensure t).node? q = (t.node? q).or (if q ∈ ps then some .directory else none) := by
  induction ps generalizing t with
  | nil => simp
  | cons p ps ih =>
      rw [List.foldl_cons, ih, node?_ensure, Option.or_assoc]
      congr 1
      by_cases hq : q = p <;> simp [hq]

section Made

variable {t t' : FileTree} {p : Path}

theorem node?_makeDirectories (hmake : t.makeDirectories p = .ok t') (q : Path) :
    t'.node? q = t.node? q ∨
      t.node? q = none ∧ q.length ≤ p.length ∧ t'.node? q = some .directory := by
  rw [makeDirectories_eq] at hmake
  split at hmake
  · cases hmake
    exact .inl rfl
  · cases hmake
  · split at hmake
    · cases hmake
    · cases hmake
      rw [node?_foldl_ensure]
      cases hnode : t.node? q with
      | some n => exact .inl rfl
      | none =>
          by_cases hq : q ∈ (List.range (p.length + 1)).map fun k => p.take k
          · obtain ⟨k, -, rfl⟩ := List.mem_map.mp hq
            exact .inr ⟨rfl, List.length_take_le' k p, by rw [if_pos hq]; rfl⟩
          · exact .inl (by rw [if_neg hq]; rfl)

theorem directory_of_makeDirectories (hmake : t.makeDirectories p = .ok t') :
    t'.node? p = some .directory := by
  rw [makeDirectories_eq] at hmake
  split at hmake
  next hnode =>
    cases hmake
    exact hnode
  next => cases hmake
  next hnode =>
    split at hmake
    · cases hmake
    · cases hmake
      have hlast : p ∈ (List.range (p.length + 1)).map fun k => p.take k :=
        List.mem_map.mpr ⟨p.length, by simp, List.take_length⟩
      rw [node?_foldl_ensure, hnode, if_pos hlast]
      rfl

/-- To make directories neither makes nor changes a file. -/
theorem file?_makeDirectories (hmake : t.makeDirectories p = .ok t') (q : Path) :
    t'.file? q = t.file? q := by
  unfold file?
  rcases node?_makeDirectories hmake q with heq | ⟨hnone, -, hmade⟩
  · rw [heq]
  · rw [hnone, hmade]

theorem file_of_makeDirectories {q : Path} {d : ByteArray} (hmake : t.makeDirectories p = .ok t')
    (hnode : t'.node? q = some (.file d)) : t.node? q = some (.file d) := by
  apply node?_of_file?
  rw [← file?_makeDirectories hmake]
  exact file?_of_node? hnode

end Made

/-! ## Trees that differ in one file -/

/-- The trees have files of these contents at the path, and the same nodes everywhere else. -/
structure SameBut (p : Path) (d d' : ByteArray) (t u : FileTree) : Prop where
  elsewhere : ∀ q, q ≠ p → u.node? q = t.node? q
  left : t.node? p = some (.file d)
  right : u.node? p = some (.file d')

theorem sameBut_set {t : FileTree} {p : Path} {d : ByteArray}
    (hnode : t.node? p = some (.file d)) (d' : ByteArray) :
    SameBut p d d' t (t.set p (.file d')) where
  elsewhere _ hne := node?_set_of_ne hne t _
  left := hnode
  right := node?_set_self (ne_nil_of_file hnode) t _

namespace SameBut

variable {p : Path} {d d' : ByteArray} {t u : FileTree}

theorem set (hsame : SameBut p d d' t u) {q : Path} (hne : p ≠ q) (n : FileNode) :
    SameBut p d d' (t.set q n) (u.set q n) where
  elsewhere r hr := by
    by_cases hroot : r = []
    · rw [hroot]
      rfl
    · by_cases hq : r = q
      · rw [hq, node?_set_self (hq ▸ hroot), node?_set_self (hq ▸ hroot)]
      · rw [node?_set_of_ne hq, node?_set_of_ne hq, hsame.elsewhere r hr]
  left := by
    rw [node?_set_of_ne hne]
    exact hsame.left
  right := by
    rw [node?_set_of_ne hne]
    exact hsame.right

/-- A node is the same in both, unless it is the file in which they differ. -/
theorem node?_cases (hsame : SameBut p d d' t u) (q : Path) :
    u.node? q = t.node? q ∨ t.node? q = some (.file d) ∧ u.node? q = some (.file d') := by
  by_cases hq : q = p
  · rw [hq]
    exact .inr ⟨hsame.left, hsame.right⟩
  · exact .inl (hsame.elsewhere q hq)

theorem exists?_eq (hsame : SameBut p d d' t u) (q : Path) : u.exists? q = t.exists? q := by
  unfold exists?
  rcases hsame.node?_cases q with heq | ⟨hleft, hright⟩
  · rw [heq]
  · rw [hleft, hright]
    rfl

theorem isBlocked_eq (hsame : SameBut p d d' t u) (q : Path) : u.isBlocked q = t.isBlocked q := by
  unfold isBlocked
  congr 1
  funext k
  rcases hsame.node?_cases (q.take k) with heq | ⟨hleft, hright⟩
  · rw [heq]
  · rw [hleft, hright]

theorem read_eq (hsame : SameBut p d d' t u) {q : Path} (hne : q ≠ p) (text : String) :
    u.read q text = t.read q text := by
  unfold read
  rw [hsame.elsewhere q hne, hsame.isBlocked_eq q]

/-- The same names lead to the same path. -/
theorem follow?_eq (hsame : SameBut p d d' t u) (start : Path) (names : List String) :
    u.follow? start names = t.follow? start names := by
  unfold follow?
  congr 1
  funext q name
  rcases hsame.node?_cases q with heq | ⟨hleft, hright⟩
  · rw [heq]
  · rw [hleft, hright]

theorem ensure (hsame : SameBut p d d' t u) (q : Path) :
    SameBut p d d' (t.ensure q) (u.ensure q) := by
  unfold FileTree.ensure
  rw [hsame.exists?_eq q]
  by_cases hexists : t.exists? q = true
  · rw [if_pos hexists, if_pos hexists]
    exact hsame
  · rw [if_neg hexists, if_neg hexists]
    apply hsame.set
    rintro rfl
    exact hexists (by rw [exists?, hsame.left]; rfl)

theorem foldl_ensure (hsame : SameBut p d d' t u) (qs : List Path) :
    SameBut p d d' (qs.foldl FileTree.ensure t) (qs.foldl FileTree.ensure u) := by
  induction qs generalizing t u with
  | nil => exact hsame
  | cons q qs ih => exact ih (hsame.ensure q)

theorem makeDirectories (hsame : SameBut p d d' t u) {q : Path} {t' : FileTree}
    (hmake : t.makeDirectories q = .ok t') :
    ∃ u', u.makeDirectories q = .ok u' ∧ SameBut p d d' t' u' := by
  -- No directory is made where the file is.
  have hne : q ≠ p := by
    rintro rfl
    rw [makeDirectories_eq, hsame.left] at hmake
    cases hmake
  rw [makeDirectories_eq] at hmake ⊢
  rw [hsame.elsewhere q hne, hsame.isBlocked_eq q]
  split at hmake
  · cases hmake
    exact ⟨u, rfl, hsame⟩
  · cases hmake
  · split at hmake
    · cases hmake
    next hblocked =>
      cases hmake
      rw [if_neg hblocked]
      exact ⟨_, rfl, hsame.foldl_ensure _⟩

theorem write (hsame : SameBut p d d' t u) {q : Path} (hne : p ≠ q) {data : ByteArray}
    {t' : FileTree} (hwrite : t.write q data = .ok t') :
    ∃ u', u.write q data = .ok u' ∧ SameBut p d d' t' u' := by
  obtain ⟨hnode, hparent, rfl⟩ := write_ok_iff.mp hwrite
  refine ⟨u.set q (.file data), write_ok_iff.mpr ⟨?_, ?_, rfl⟩, hsame.set hne _⟩
  · rwa [hsame.elsewhere q hne.symm]
  · rw [hsame.elsewhere q.parent, hparent]
    intro hp
    rw [hp, hsame.left] at hparent
    cases hparent

end SameBut
end FileTree
end Fiducial
