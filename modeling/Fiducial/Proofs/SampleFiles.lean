import Fiducial.Proofs.SampleReplay

/-!
# What becomes of the files of a sample that are there already

If the three files of a sample are there, they are left alone.  If one of them is missing, all three
are written, and what the other two held is lost, unless it was what is written anyway.  The
configuration and the map are written even if no events can be made of the request.  Whatever the
first attempt did, the same request changes nothing when it comes a second time, and once an attempt
has succeeded, no request without leave to overwrite changes anything.
-/

namespace Fiducial

namespace FileTree

theorem file?_set {p : Path} (hp : p ≠ []) (t : FileTree) (d : ByteArray) (q : Path) :
    (t.set p (.file d)).file? q = (if q = p then some d else none).or (t.file? q) := by
  by_cases hq : q = p
  · rw [if_pos hq, hq, Option.some_or]
    exact file?_of_node? (node?_set_self hp t _)
  · rw [if_neg hq, Option.none_or]
    unfold file?
    rw [node?_set_of_ne hq]

def putAll (t : FileTree) (ws : List (Path × ByteArray)) : FileTree :=
  ws.foldl (fun t w => t.set w.1 (.file w.2)) t

theorem file?_putAll {ws : List (Path × ByteArray)} (hroot : ∀ w ∈ ws, w.1 ≠ []) (t : FileTree)
    (q : Path) : (t.putAll ws).file? q = (ws.reverse.lookup q).or (t.file? q) := by
  -- over the writings still to come, for any tree that the earlier ones have left
  induction ws generalizing t with
  | nil => rfl
  | cons w ws ih =>
      obtain ⟨hw, hws⟩ := List.forall_mem_cons.mp hroot
      have hlast : [w].lookup q = if q = w.1 then some w.2 else none := by
        by_cases hq : q = w.1
        · rw [List.lookup_cons, hq, beq_self_eq_true, if_pos rfl]
        · have hkey : (q == w.1) = false := by simp [hq]
          rw [List.lookup_cons, hkey, if_neg hq]
          rfl
      calc
        (t.putAll (w :: ws)).file? q =
            (ws.reverse.lookup q).or ((t.set w.1 (.file w.2)).file? q) := ih hws _
        _ = (ws.reverse.lookup q).or (([w].lookup q).or (t.file? q)) := by
          rw [file?_set hw, hlast]
        _ = ((w :: ws).reverse.lookup q).or (t.file? q) := by
          rw [List.reverse_cons, List.lookup_append, Option.or_assoc]

end FileTree

namespace Sample

variable {t : FileTree} {directory q : Path} {events : Except Fault (List Value)}

/-! ## Places for the files -/

def Paths.toList (p : Paths) : List Path := [p.config, p.landmarks, p.events]

theorem place_of_mem (hq : q ∈ (pathsIn directory).toList) :
    q.parent = directory ∧ q ≠ directory ∧ q ≠ [] ∧ directory.length < q.length := by
  simp only [Paths.toList, pathsIn, List.mem_cons, List.not_mem_nil, or_false] at hq
  rcases hq with rfl | rfl | rfl <;> simp [Path.parent]

def Complete (t : FileTree) (directory : Path) : Prop :=
  ∀ q ∈ (pathsIn directory).toList, (t.file? q).isSome

/-- The directory can be made, if it is not there, and no directory stands where a file belongs. -/
structure Ready (t : FileTree) (directory : Path) : Prop where
  made : ∃ t', t.makeDirectories directory = .ok t'
  places : ∀ q ∈ (pathsIn directory).toList, t.node? q ≠ some .directory

structure Opened (t : FileTree) (directory : Path) : Prop where
  made : t.node? directory = some .directory
  places : ∀ q ∈ (pathsIn directory).toList, t.node? q ≠ some .directory

theorem Opened.ready (hopened : Opened t directory) : Ready t directory where
  made := ⟨t, by rw [FileTree.makeDirectories_eq, hopened.made]⟩
  places := hopened.places

theorem Ready.opened (hready : Ready t directory) :
    ∃ t', t.makeDirectories directory = .ok t' ∧ Opened t' directory ∧
      ∀ q, t'.file? q = t.file? q := by
  obtain ⟨t', hmake⟩ := hready.made
  refine ⟨t', hmake, ⟨FileTree.directory_of_makeDirectories hmake, ?_⟩,
    FileTree.file?_makeDirectories hmake⟩
  intro q hq
  obtain ⟨-, -, -, hlength⟩ := place_of_mem hq
  rcases FileTree.node?_makeDirectories hmake q with hsame | ⟨-, hshort, -⟩
  · rw [hsame]
    exact hready.places q hq
  · exact absurd hshort (not_le.mpr hlength)

theorem Opened.write (hopened : Opened t directory) (hq : q ∈ (pathsIn directory).toList)
    (d : ByteArray) :
    t.write q d = .ok (t.set q (.file d)) ∧ Opened (t.set q (.file d)) directory := by
  obtain ⟨hparent, hne, hroot, -⟩ := place_of_mem hq
  constructor
  · rw [FileTree.write_ok_iff, hparent]
    exact ⟨hopened.places q hq, hopened.made, rfl⟩
  · constructor
    · rw [FileTree.node?_set_of_ne hne.symm]
      exact hopened.made
    · intro p hp
      by_cases hsame : p = q
      · rw [hsame, FileTree.node?_set_self hroot]
        simp
      · rw [FileTree.node?_set_of_ne hsame]
        exact hopened.places p hp

/-! ## What is written -/

/-- The files that are written, in their order; the events only if they can be made. -/
def writings (directory : Path) (events : Except Fault (List Value)) : List (Path × ByteArray) :=
  let p := pathsIn directory
  let documents :=
    [(p.config, (Yaml.print config).toUTF8), (p.landmarks, (Yaml.print landmarkMap).toUTF8)]
  match events with
  | .ok es => documents ++ [(p.events, (eventLines es).toUTF8)]
  | .error _ => documents

def written (directory : Path) (events : Except Fault (List Value)) (q : Path) :
    Option ByteArray :=
  (writings directory events).reverse.lookup q

theorem root_of_writings : ∀ w ∈ writings directory events, w.1 ≠ [] := by
  cases events <;> simp [writings, pathsIn]

theorem isSome_written {es : List Value} (hq : q ∈ (pathsIn directory).toList) :
    (written directory (.ok es) q).isSome := by
  simp only [Paths.toList, List.mem_cons, List.not_mem_nil, or_false] at hq
  rcases hq with rfl | rfl | rfl <;> simp [written, writings, pathsIn, List.lookup]

structure Wrote (t : FileTree) (directory : Path) (events : Except Fault (List Value))
    (a : Attempt) : Prop where
  outcome : a.1 = events.map fun _ => ()
  opened : Opened a.2 directory
  files : ∀ q, a.2.file? q = (written directory events q).or (t.file? q)

theorem wrote_writeAll (hready : Ready t directory) (events : Except Fault (List Value)) :
    Wrote t directory events (writeAll t directory events) := by
  have hplaces : ∀ q, q ∈ (pathsIn directory).toList ↔ q = (pathsIn directory).config ∨
      q = (pathsIn directory).landmarks ∨ q = (pathsIn directory).events := by
    simp [Paths.toList]
  obtain ⟨t₀, hmade, hopened₀, hfiles⟩ := hready.opened
  obtain ⟨hwrite₁, hopened₁⟩ := hopened₀.write ((hplaces _).mpr (.inl rfl))
    (Yaml.print config).toUTF8
  obtain ⟨hwrite₂, hopened₂⟩ := hopened₁.write ((hplaces _).mpr (.inr (.inl rfl)))
    (Yaml.print landmarkMap).toUTF8
  have hcontents : ∀ q, (t₀.putAll (writings directory events)).file? q =
      (written directory events q).or (t.file? q) := by
    intro q
    rw [FileTree.file?_putAll root_of_writings, hfiles]
    rfl
  cases events with
  | error f =>
      have hall : writeAll t directory (.error f) =
          (.error f, t₀.putAll (writings directory (.error f))) := by
        simp only [writeAll, attempt, hmade, hwrite₁, hwrite₂]
        rfl
      rw [hall]
      exact ⟨rfl, hopened₂, hcontents⟩
  | ok es =>
      obtain ⟨hwrite₃, hopened₃⟩ := hopened₂.write ((hplaces _).mpr (.inr (.inr rfl)))
        (eventLines es).toUTF8
      have hall : writeAll t directory (.ok es) =
          (.ok (), t₀.putAll (writings directory (.ok es))) := by
        simp only [writeAll, attempt, hmade, hwrite₁, hwrite₂, hwrite₃]
        rfl
      rw [hall]
      exact ⟨rfl, hopened₃, hcontents⟩

/-! ## Without leave to overwrite -/

variable {noise : Int → Nat → Float × Float} {r : Request}

theorem allExist_iff (hready : Ready t directory) :
    (pathsIn directory).allExist t = true ↔ Complete t directory := by
  have hplace : ∀ q ∈ (pathsIn directory).toList, t.exists? q = (t.file? q).isSome := by
    intro q hq
    have hfile := hready.places q hq
    unfold FileTree.exists? FileTree.file?
    cases hnode : t.node? q with
    | none => rfl
    | some n =>
        cases n with
        | directory => exact absurd hnode hfile
        | file d => rfl
  have hall : (pathsIn directory).allExist t = (pathsIn directory).toList.all t.exists? := by
    simp [Paths.allExist, Paths.toList, Bool.and_assoc]
  rw [hall, List.all_eq_true]
  exact forall₂_congr fun q hq => by rw [hplace q hq]

theorem ensure_of_complete (hready : Ready t directory) (hkeep : r.overwrite = false)
    (hcomplete : Complete t directory) : ensure noise t directory r = (.ok (), t) := by
  apply if_pos
  rw [hkeep, (allExist_iff hready).mpr hcomplete]
  rfl

theorem wrote_ensure (hready : Ready t directory) (hmissing : ¬Complete t directory) :
    Wrote t directory (r.events noise) (ensure noise t directory r) := by
  have hwrites : ensure noise t directory r = writeAll t directory (r.events noise) := by
    apply if_neg
    simp [mt (allExist_iff hready).mp hmissing]
  rw [hwrites]
  exact wrote_writeAll hready _

namespace Wrote

variable {a : Attempt}

theorem again (hwrote : Wrote t directory (r.events noise) a) (hkeep : r.overwrite = false)
    (q : Path) : (ensure noise a.2 directory r).2.file? q = a.2.file? q := by
  by_cases hcomplete : Complete a.2 directory
  · rw [ensure_of_complete hwrote.opened.ready hkeep hcomplete]
  · -- the first attempt could not make the events, and the second writes the same documents
    have hsecond : Wrote a.2 directory (r.events noise) (ensure noise a.2 directory r) :=
      wrote_ensure hwrote.opened.ready hcomplete
    rw [hsecond.files, hwrote.files, ← Option.or_assoc, Option.or_self]

theorem complete (hwrote : Wrote t directory events a) (hok : a.1 = .ok ()) :
    Complete a.2 directory := by
  intro q hq
  have houtcome := hwrote.outcome
  rw [hok] at houtcome
  cases events with
  | error f => cases houtcome
  | ok es =>
      rw [hwrote.files, Option.isSome_or, isSome_written hq]
      rfl

end Wrote

/-- What an attempt without leave to overwrite makes of the files of a tree. -/
structure TreatsFiles (noise : Int → Nat → Float × Float) (t : FileTree) (directory : Path)
    (r : Request) (a : Attempt) : Prop where
  complete : Complete t directory → a = (.ok (), t)
  /-- One missing file is enough for all to be written, whatever is in the others. -/
  missing : ¬Complete t directory → a.1 = (r.events noise).map (fun _ => ()) ∧
    ∀ q, a.2.file? q = (written directory (r.events noise) q).or (t.file? q)
  kept_iff : ∀ q d, t.file? q = some d → (a.2.file? q = some d ↔
    Complete t directory ∨ ∀ d', written directory (r.events noise) q = some d' → d' = d)
  created : a.1 = .ok () → Complete a.2 directory
  succeeds_iff : a.1 = .ok () ↔ Complete t directory ∨ ∃ es, r.events noise = .ok es
  again : ∀ q, (ensure noise a.2 directory r).2.file? q = a.2.file? q
  settled : a.1 = .ok () → ∀ noise' r', r'.overwrite = false →
    ensure noise' a.2 directory r' = (.ok (), a.2)

theorem ensure_treatsFiles (hready : Ready t directory) (hkeep : r.overwrite = false) :
    TreatsFiles noise t directory r (ensure noise t directory r) := by
  by_cases hcomplete : Complete t directory
  · have huntouched : ensure noise t directory r = (.ok (), t) :=
      ensure_of_complete hready hkeep hcomplete
    rw [huntouched]
    constructor
    case complete => exact fun _ => rfl
    case missing => exact fun hmissing => absurd hcomplete hmissing
    case kept_iff =>
      intro q d hfile
      exact iff_of_true hfile (.inl hcomplete)
    case created => exact fun _ => hcomplete
    case succeeds_iff => exact iff_of_true rfl (.inl hcomplete)
    case again =>
      intro q
      rw [huntouched]
    case settled => exact fun _ _ _ hkeep' => ensure_of_complete hready hkeep' hcomplete
  · have hwrote : Wrote t directory (r.events noise) (ensure noise t directory r) :=
      wrote_ensure hready hcomplete
    constructor
    case complete => exact fun hall => absurd hall hcomplete
    case missing => exact fun _ => ⟨hwrote.outcome, hwrote.files⟩
    case kept_iff =>
      intro q d hfile
      rw [hwrote.files, hfile]
      cases written directory (r.events noise) q <;> simp [hcomplete]
    case created => exact hwrote.complete
    case succeeds_iff =>
      rw [hwrote.outcome]
      cases r.events noise <;> simp [hcomplete, Except.map]
    case again => exact hwrote.again hkeep
    case settled =>
      intro hok noise' r' hkeep'
      exact ensure_of_complete hwrote.opened.ready hkeep' (hwrote.complete hok)

/-! ## A map without a recording -/

def ownMap : String := "landmarks:\n- \x7bid: '7', position: [1, 2, 3]\x7d\n"

def ownFiles : FileTree :=
  ⟨[(["sample"], .directory), (["sample", "landmarks.yaml"], .file ownMap.toUTF8)]⟩

theorem ready_ownFiles : Ready ownFiles ["sample"] where
  made := ⟨ownFiles, rfl⟩
  places := by
    simp only [Paths.toList, pathsIn, List.forall_mem_cons]
    simp [ownFiles, FileTree.node?, List.lookup]

theorem print_ne_ownMap : (Yaml.print landmarkMap).toUTF8 ≠ ownMap.toUTF8 := by
  intro hsame
  have hlength : (Yaml.charactersOf landmarkMap).length ≠ ownMap.toList.length := by
    decide +kernel
  have htext := congrArg Text.decode? hsame
  rw [Text.decode?_toUTF8, Text.decode?_toUTF8] at htext
  rw [← Yaml.toList_print, Option.some.inj htext] at hlength
  exact hlength rfl

/-- The map is lost although it may not be overwritten. -/
theorem ensure_treatsFiles_ownMap :
    Ready ownFiles ["sample"] ∧ ({} : Request).overwrite = false ∧
      ownFiles.file? ["sample", "landmarks.yaml"] = some ownMap.toUTF8 ∧
      (ensure noNoise ownFiles ["sample"] {}).2.file? ["sample", "landmarks.yaml"] ≠
        some ownMap.toUTF8 := by
  have hfile : ownFiles.file? ["sample", "landmarks.yaml"] = some ownMap.toUTF8 := rfl
  have htreats : TreatsFiles noNoise ownFiles ["sample"] {}
      (ensure noNoise ownFiles ["sample"] {}) := ensure_treatsFiles ready_ownFiles rfl
  have hmissing : ¬Complete ownFiles ["sample"] := by
    intro hcomplete
    have hconfig := hcomplete (pathsIn ["sample"]).config (by simp [Paths.toList])
    simp [ownFiles, pathsIn, FileTree.file?, FileTree.node?, List.lookup] at hconfig
  refine ⟨ready_ownFiles, rfl, hfile, ?_⟩
  rw [Ne, htreats.kept_iff _ _ hfile]
  rintro (hcomplete | hsame)
  · exact hmissing hcomplete
  · apply print_ne_ownMap
    apply hsame
    cases Request.events {} noNoise <;> rfl

end Sample

end Fiducial
