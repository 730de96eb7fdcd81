import Mathlib
import Fiducial.Config.File
import Fiducial.LandmarkMap.Reader
import Fiducial.Proofs.AcceptedConfigs
import Fiducial.Proofs.EventLines
import Fiducial.Proofs.FileTrees
import Fiducial.Proofs.SampleScene
import Fiducial.Proofs.WrittenLines
import Fiducial.Sample.Files

/-!
# The documents of the sample

The configuration and the map of the sample are written as YAML and read back as they were.  So what
is loaded from its files is known: the frames of the configuration put the camera where the scene
has it, and the map has the landmarks of the scene, in exact arithmetic as well.
-/

namespace Fiducial

/-! ## Equality of documents -/

theorem Double.eq_of_toBits {x y : Float} (hbits : x.toBits = y.toBits) : x = y := by
  obtain ⟨⟨bits, _⟩⟩ := x
  obtain ⟨⟨bits', _⟩⟩ := y
  obtain rfl : bits = bits' := hbits
  rfl

namespace Value

mutual

/-- Whether two values of text, numbers, lists and mappings are the same, their doubles bit by
bit. -/
def same : Value → Value → Bool
  | .null, .null => true
  | .bool a, .bool b => a = b
  | .int a, .int b => a = b
  | .float a, .float b => a.toBits = b.toBits
  | .str a, .str b => a = b
  | .list as, .list bs => sameItems as bs
  | .map as, .map bs => sameEntries as bs
  | _, _ => false

def sameItems : List Value → List Value → Bool
  | [], [] => true
  | a :: as, b :: bs => same a b && sameItems as bs
  | _, _ => false

def sameEntries : List (Value × Value) → List (Value × Value) → Bool
  | [], [] => true
  | (j, a) :: as, (k, b) :: bs => same j k && same a b && sameEntries as bs
  | _, _ => false

end

mutual

theorem eq_of_same : ∀ v w : Value, same v w = true → v = w
  | .null, .null, _ => rfl
  | .bool _, .bool _, h => congrArg Value.bool (of_decide_eq_true h)
  | .int _, .int _, h => congrArg Value.int (of_decide_eq_true h)
  | .float _, .float _, h => congrArg Value.float (Double.eq_of_toBits (of_decide_eq_true h))
  | .str _, .str _, h => congrArg Value.str (of_decide_eq_true h)
  | .list as, .list bs, h => congrArg Value.list (eq_of_sameItems as bs h)
  | .map as, .map bs, h => congrArg Value.map (eq_of_sameEntries as bs h)

theorem eq_of_sameItems : ∀ as bs, sameItems as bs = true → as = bs
  | [], [], _ => rfl
  | a :: as, b :: bs, h => by
      obtain ⟨hhead, htail⟩ := Bool.and_eq_true_iff.mp h
      rw [eq_of_same a b hhead, eq_of_sameItems as bs htail]

theorem eq_of_sameEntries : ∀ as bs, sameEntries as bs = true → as = bs
  | [], [], _ => rfl
  | (j, a) :: as, (k, b) :: bs, h => by
      obtain ⟨hhead, htail⟩ := Bool.and_eq_true_iff.mp h
      obtain ⟨hkey, hvalue⟩ := Bool.and_eq_true_iff.mp hhead
      rw [eq_of_same j k hkey, eq_of_same a b hvalue, eq_of_sameEntries as bs htail]

end

end Value

/-! ## Texts of documents -/

namespace Yaml

/-- The tokens of a text that is given by its characters. -/
def scan (cs : List Char) : Except Fault (List Token) :=
  if !cs.all isAllowed then refuse
  else (Scanner.run (cs.length + 2) (Scanner.start cs)).map fun s => s.slots.toList.flatten

/-- The value of a text that is given by its characters. -/
def readCharacters (cs : List Char) : Except Fault Value := scan cs >>= ofTokens

theorem read_eq (s : String) : read s = readCharacters s.toList := rfl

/-- The characters of the lines of a document. -/
def charactersOf (v : Value) : List Char := (linesOf v).flatMap (·.toList ++ ['\n'])

theorem toList_print (v : Value) : (print v).toList = charactersOf v := by
  simp [print, charactersOf, String.toList_join, List.flatMap_map]

/-- Whether a document is read back as it was written, from a file with line feeds only. -/
def readsBack (v : Value) : Bool :=
  (charactersOf v).all (· ≠ '\r') && match readCharacters (charactersOf v) with
    | .ok w => w.same v
    | .error _ => false

theorem read_print {v : Value} (hback : readsBack v = true) : read (print v) = .ok v := by
  obtain ⟨-, hsame⟩ := Bool.and_eq_true_iff.mp hback
  rw [read_eq, toList_print]
  split at hsame
  next w hread => rw [hread, Value.eq_of_same w v hsame]
  next => cases hsame

theorem readFile?_print {v : Value} (hback : readsBack v = true) :
    Text.readFile? (print v).toUTF8 = some (print v) := by
  obtain ⟨hfeeds, -⟩ := Bool.and_eq_true_iff.mp hback
  have hreturn : ∀ c ∈ (print v).toList, c ≠ '\r' := by
    rw [toList_print]
    simpa using hfeeds
  rw [Text.readFile?, Text.decode?_toUTF8, Option.map_some,
    Text.normalizeNewlines_of_noReturn hreturn, String.ofList_toList]

end Yaml

/-! ## Files of documents -/

section Files

variable {t : FileTree} {p : Path} {v : Value}

theorem FileTree.read_of_node {d : ByteArray} (hfile : t.node? p = some (.file d)) (text : String) :
    t.read p text = .ok d := by
  rw [read, hfile]

theorem Config.load_print (hfile : t.node? p = some (.file (Yaml.print v).toUTF8))
    (hback : Yaml.readsBack v = true) : load t p = ofDocument v := by
  have hread : Yaml.Library.read (Yaml.print v) = .ok v := Yaml.read_print hback
  have hcontent : ofContent (Yaml.print v).toUTF8 = ofDocument v := by
    rw [ofContent, Yaml.readFile?_print hback]
    dsimp only
    rw [hread]
    rfl
  rw [load, FileTree.read_of_node hfile, ← hcontent]
  rfl

theorem LandmarkMap.document_print (hfile : t.node? p = some (.file (Yaml.print v).toUTF8))
    (hback : Yaml.readsBack v = true) (hsuffix : p.suffix = ".yaml") : document t p = .ok v := by
  have hexists : t.exists? p = true := by
    rw [FileTree.exists?, hfile]
    rfl
  have hending : String.ofList (".yaml".toList.map Char.toLower) = ".yaml" := by decide +kernel
  have hparse : parse ".yaml" (Yaml.print v) p.text = .ok v := by
    rw [← Yaml.read_print hback]
    rfl
  rw [document, hexists, FileTree.read_of_node hfile, hsuffix, hending]
  simp only [Bool.not_true, Bool.false_eq_true, if_false, bind, Except.bind,
    Yaml.readFile?_print hback, hparse, Except.mapError]

end Files

namespace Sample

theorem readsBack_config : Yaml.readsBack config = true := by decide +kernel

theorem readsBack_landmarkMap : Yaml.readsBack landmarkMap = true := by decide +kernel

/-! ## Files -/

/-- The files of a sample with these events are in a tree. -/
structure Holds (t : FileTree) (p : Paths) (events : List Value) : Prop where
  config : t.node? p.config = some (.file (Yaml.print config).toUTF8)
  landmarks : t.node? p.landmarks = some (.file (Yaml.print landmarkMap).toUTF8)
  events : t.node? p.events = some (.file (eventLines events).toUTF8)

theorem attempt_ok {t t' : FileTree} {r : Except Fault FileTree} {next : FileTree → Attempt}
    (hok : attempt t r next = (.ok (), t')) : ∃ u, r = .ok u ∧ next u = (.ok (), t') := by
  cases r with
  | ok u => exact ⟨u, rfl, hok⟩
  | error f => cases hok

theorem holds_of_writeAll {t t' : FileTree} {directory : Path} {events : Except Fault (List Value)}
    (hall : writeAll t directory events = (.ok (), t')) :
    ∃ es, events = .ok es ∧ Holds t' (pathsIn directory) es := by
  unfold writeAll at hall
  obtain ⟨t₀, -, hall⟩ := attempt_ok hall
  obtain ⟨t₁, hconfig, hall⟩ := attempt_ok hall
  obtain ⟨t₂, hlandmarks, hall⟩ := attempt_ok hall
  cases hevents : events with
  | error f =>
      rw [hevents] at hall
      cases hall
  | ok es =>
      rw [hevents] at hall
      obtain ⟨t₃, hwritten, hall⟩ := attempt_ok hall
      obtain rfl : t₃ = t' := congrArg Prod.snd hall
      obtain ⟨-, -, rfl⟩ := FileTree.write_ok_iff.mp hconfig
      obtain ⟨-, -, rfl⟩ := FileTree.write_ok_iff.mp hlandmarks
      obtain ⟨-, -, rfl⟩ := FileTree.write_ok_iff.mp hwritten
      have hne (name : String) : directory ++ [name] ≠ [] := by simp
      refine ⟨es, rfl, ?_⟩
      constructor
      case config =>
        rw [FileTree.node?_set_of_ne (by simp [pathsIn]),
          FileTree.node?_set_of_ne (by simp [pathsIn])]
        exact FileTree.node?_set_self (hne _) _ _
      case landmarks =>
        rw [FileTree.node?_set_of_ne (by simp [pathsIn])]
        exact FileTree.node?_set_self (hne _) _ _
      case events => exact FileTree.node?_set_self (hne _) _ _

/-- A sample that is made anew is in its files. -/
theorem holds_of_ensure {noise : Int → Nat → Float × Float} {t t' : FileTree} {directory : Path}
    {r : Request} (hensure : ensure noise t directory r = (.ok (), t'))
    (hnew : r.overwrite = true ∨ (pathsIn directory).allExist t = false) :
    ∃ es, r.events noise = .ok es ∧ Holds t' (pathsIn directory) es := by
  have hwrites : ¬(!r.overwrite && (pathsIn directory).allExist t) = true := by
    rcases hnew with h | h <;> simp [h]
  rw [ensure, if_neg hwrites] at hensure
  exact holds_of_writeAll hensure

theorem suffix_landmarks (directory : Path) : (pathsIn directory).landmarks.suffix = ".yaml" := by
  have hlast : (directory ++ ["landmarks.yaml"]).getLastD "" = "landmarks.yaml" := by simp
  simp only [pathsIn, Path.suffix, hlast]
  decide +kernel

/-! ## What is read from the documents -/

/-- The camera on the vehicle as the configuration has it. -/
def mount : StaticTransform where
  parent := .str "base_link"
  child := .str "camera"
  translation := vector cameraPosition
  rotation := .list (cameraRotation.toList.map .float)

/-- The settings of the sample. -/
structure Configured (c : Config) : Prop where
  targets_eq : c.targets = targets
  mapFrame_eq : c.mapFrame = .str "map"
  baseFrame_eq : c.baseFrame = .str "base_link"
  transforms_eq : c.transforms = [mount]

theorem configured : ∃ c, Config.ofDocument config = .ok c ∧ Configured c := by
  have hok : (Config.ofDocument config).isOk = true := by decide +kernel
  obtain ⟨c, hread⟩ := exists_of_isOk hok
  have hfrom := Config.readFrom_of_ofDocument hread
  refine ⟨c, hread, ?_⟩
  constructor
  case targets_eq => exact (Except.ok.inj hfrom.targets).symm
  case mapFrame_eq => exact hfrom.mapFrame
  case baseFrame_eq => exact hfrom.baseFrame
  case transforms_eq => exact (Except.ok.inj hfrom.transforms).symm

theorem transform_mount : mount.transform = .ok (cameraOnVehicle : Transform ℝ) := by
  have hrotation : StaticTransform.tensorOf mount.rotation = .ok ⟨[4], cameraRotation.toList⟩ := rfl
  have htranslation : StaticTransform.tensorOf mount.translation =
      .ok ⟨[3], cameraPosition.toList⟩ := rfl
  have hquaternion : (⟨[4], cameraRotation.toList⟩ : Tensor).toQuaternion = .ok cameraRotation :=
    rfl
  have hposition : (⟨[3], cameraPosition.toList⟩ : Tensor).toVec3 = .ok cameraPosition := rfl
  have hmatrix : (cameraRotation.map Scalar.ofFloat : Quaternion ℝ).toMatrix? =
      some cameraTurn.normalize.normalize.unitMatrix := toMatrix_cameraTurn
  simp only [StaticTransform.transform, hrotation, htranslation, hquaternion, hposition, hmatrix,
    bind, Except.bind, pure, Except.pure]
  rfl

/-- The frames of the sample: the vehicle and its camera. -/
noncomputable def frames : FrameGraph ℝ :=
  ⟨[⟨"base_link", "camera", cameraOnVehicle⟩, ⟨"camera", "base_link", cameraOnVehicle.invert⟩]⟩

theorem ofStatic_mount : FrameGraph.ofStatic [mount] = .ok frames := by
  have hadd : FrameGraph.addStatic FrameGraph.empty mount = .ok frames := by
    simp only [FrameGraph.addStatic, transform_mount, bind, Except.bind]
    rfl
  simp only [FrameGraph.ofStatic, List.foldlM_cons, List.foldlM_nil, hadd, bind, Except.bind]
  rfl

theorem lookup_camera : frames.lookup "base_link" "camera" = .found cameraOnVehicle := by
  simp [FrameGraph.lookup, FrameGraph.hasFrame, FrameGraph.leadingElsewhere, FrameGraph.outgoing,
    FrameGraph.search, frames, Transform.identity_compose]

/-- The landmarks of the scene. -/
noncomputable def map : List (Landmark ℝ) := places.map Place.landmark

/-- An entry without an orientation is not turned. -/
theorem orientationOf_noRotation (field : String) :
    LandmarkMap.orientationOf field LandmarkMap.noRotation = .ok (Mat3.identity : Mat3 ℝ) := by
  have hread : LandmarkMap.quaternion field LandmarkMap.noRotation = .ok ⟨0.0, 0.0, 0.0, 1.0⟩ := rfl
  have hzero : Binary.value 0.0 = 0 := Binary.value_zero
  have hone : Binary.value 1.0 = 1 := Binary.value_one
  have hmatrix : ((⟨0.0, 0.0, 0.0, 1.0⟩ : Quaternion Float).map
      (Scalar.ofFloat : Float → ℝ)).toMatrix? = some Mat3.identity := by
    simp only [Quaternion.map, Scalar.ofFloat, hzero, hone]
    exact Quaternion.toMatrix_real le_rfl
  simp only [LandmarkMap.orientationOf, hread, hmatrix, bind, Except.bind]
  rfl

theorem entryOf_entry (index : Int) {p : Place} (hp : p ∈ places) :
    LandmarkMap.entryOf index p.entry = .ok (p.landmark : Landmark ℝ) := by
  have hstraight (id : String) (position : Vec3 Float) (field : String) :
      (do
        let rotation ← (LandmarkMap.orientationOf field LandmarkMap.noRotation).mapError
          LandmarkMap.orientationFault
        return ⟨id, Transform.rigid rotation (position.map Scalar.ofFloat)⟩) =
      (.ok (Place.landmark ⟨id, position, none⟩) : Except Fault (Landmark ℝ)) := by
    rw [orientationOf_noRotation]
    simp only [Place.landmark, Option.getD_none, Transform.ofVectors, ofVector_noTurn]
    rfl
  simp only [places, List.mem_cons, List.not_mem_nil, or_false] at hp
  rcases hp with rfl | rfl | rfl | rfl
  case inr.inr.inl => rfl
  all_goals exact hstraight _ _ _

theorem landmarksOf_entries : LandmarkMap.landmarksOf (places.map Place.entry) = .ok map := by
  apply mapM_ok_iff.mpr
  apply List.ext_getElem
  · simp [LandmarkMap.entries, map]
  · intro i hleft hright
    simp only [LandmarkMap.entries, map, List.getElem_map, List.getElem_mapIdx, id_eq]
    exact entryOf_entry i (List.getElem_mem _)

/-! ## What is loaded from the files -/

/-- A configuration, its frames and a map, and how the camera stands on the vehicle by them. -/
structure Loaded where
  config : Config
  frames : FrameGraph ℝ
  map : List (Landmark ℝ)
  camera : Transform ℝ

/-- These are loaded from the files of a tree. -/
structure Loads (t : FileTree) (p : Paths) (l : Loaded) : Prop where
  config_eq : Config.load t p.config = .ok l.config
  frames_eq : FrameGraph.ofStatic l.config.transforms = .ok l.frames
  map_eq : LandmarkMap.load t p.landmarks = .ok l.map
  camera_eq : l.frames.lookup l.config.baseFrame.text "camera" = .found l.camera

/-- What is loaded from the files of a sample. -/
structure Original (l : Loaded) : Prop where
  config : Configured l.config
  frames : l.frames = frames
  map : l.map = map
  camera : l.camera = cameraOnVehicle

theorem loads_of_holds {t : FileTree} {directory : Path} {es : List Value}
    (hholds : Holds t (pathsIn directory) es) :
    ∃ l, Loads t (pathsIn directory) l ∧ Original l := by
  obtain ⟨c, hread, hconfigured⟩ := configured
  refine ⟨⟨c, frames, map, cameraOnVehicle⟩, ?_, hconfigured, rfl, rfl, rfl⟩
  constructor
  case config_eq => rw [Config.load_print hholds.config readsBack_config, hread]
  case frames_eq => rw [hconfigured.transforms_eq, ofStatic_mount]
  case map_eq =>
    have hdocument := LandmarkMap.document_print hholds.landmarks readsBack_landmarkMap
      (suffix_landmarks directory)
    have hlisted : LandmarkMap.listed landmarkMap = .ok (places.map Place.entry) := rfl
    simp only [LandmarkMap.load, hdocument, hlisted, bind, Except.bind, landmarksOf_entries]
  case camera_eq =>
    rw [hconfigured.baseFrame_eq]
    exact lookup_camera

end Sample

end Fiducial
