import Fiducial.Event.Basic
import Fiducial.Proofs.AcceptedConfigs
import Fiducial.Proofs.GateMonotonicity
import Fiducial.Proofs.OriginScene
import Fiducial.Proofs.RegistryBuilding
import Fiducial.Proofs.RigidPoses
import Fiducial.Proofs.TrimmedText

/-!
# How an id is spelled

An id is given in three places: among the targets of the configuration, in an entry of the map and
in a detection.  A map trims it and the other two take it as it stands.  So the same id with blanks
around it passes the whitelist and is then not found on the map.  Only a text can have such blanks;
a number or a truth value in the three places always means one landmark.
-/

namespace Fiducial

/-! ## Reading ids -/

section Reading

/-- A target is written as its text, blanks and all. -/
theorem Config.text_mem_targets {v w : Value} {vs : List Value} {targets : List String}
    (hitems : w.items = .ok vs) (hmem : v ∈ vs) (hread : idsOf w = .ok targets) :
    v.text ∈ targets := by
  obtain ⟨vs', hitems', hnames⟩ := exists_of_bind_ok hread
  rw [hitems] at hitems'
  cases hitems'
  obtain ⟨name, hname, hread⟩ := exists_of_mem_of_mapM_ok hnames hmem
  rw [← Value.eq_text_of_name hread]
  exact hname

end Reading

variable {α : Type} [Scalar α]

theorem Event.id_of_detection {stamp : α} {sensor : String} {es : List (Value × Value)}
    {d : Detection α} {v : Value} (hread : detection stamp sensor (.map es) = .ok d)
    (hid : Value.lookup "id" es = some v) : d.id = v.text := by
  unfold detection at hread
  obtain ⟨given, hgiven, hread⟩ := exists_of_bind_ok hread
  obtain ⟨name, hname, hread⟩ := exists_of_bind_ok hread
  obtain ⟨r, _, hread⟩ := exists_of_bind_ok hread
  obtain ⟨t, _, hread⟩ := exists_of_bind_ok hread
  cases hread
  simp only [member, required, hid] at hgiven
  cases hgiven
  exact Value.eq_text_of_name hname

namespace LandmarkMap

theorem idOf_ok {index : Int} {es : List (Value × Value)} {id : String}
    (hread : idOf index es = .ok id) :
    ∃ v, (Value.lookup "id" es).getD .null = v ∧ id = Text.trim v.text := by
  unfold idOf at hread
  split at hread
  next => cases hread
  next v _ =>
    obtain ⟨name, hname, hread⟩ := exists_of_bind_ok hread
    split at hread
    next => cases hread
    next =>
      cases hread
      exact ⟨_, rfl, congrArg Text.trim (Value.eq_text_of_name hname)⟩

/-- The id of an entry is the trimmed text of what is given as id. -/
theorem id_of_entryOf {index : Int} {w : Value} {l : Landmark α}
    (hread : entryOf index w = .ok l) :
    ∃ es, w = .map es ∧
      l.id = Text.trim ((Value.lookup "id" es).getD .null).text := by
  unfold entryOf at hread
  split at hread
  next es =>
    obtain ⟨id, hid, hread⟩ := exists_of_bind_ok hread
    obtain ⟨position, _, hread⟩ := exists_of_bind_ok hread
    obtain ⟨rotation, _, hread⟩ := exists_of_bind_ok hread
    cases hread
    obtain ⟨v, rfl, htrim⟩ := idOf_ok hid
    exact ⟨es, rfl, htrim⟩
  next => cases hread

end LandmarkMap

namespace Registry

/-- A registry is set from the entries of an event, or from those of a file, which are read before
any of them is added. -/
inductive SetFrom (vs : List Value) (r : Registry α) : Prop
  | event (hcollect : collect (LandmarkMap.entries vs) = .ok r)
  | file (ls : List (Landmark α)) (hread : LandmarkMap.landmarksOf vs = .ok ls)
      (hcollect : collect (ls.map .ok) = .ok r)

variable {vs : List Value} {r : Registry α}

theorem SetFrom.entries_eq (hset : SetFrom vs r) :
    LandmarkMap.entries vs = r.landmarks.map .ok := by
  cases hset with
  | event hcollect => exact (collect_ok_iff.mp hcollect).1
  | file ls hread hcollect =>
      have hentries := mapM_ok_iff.mp hread
      rw [List.map_id] at hentries
      rw [hentries]
      exact (collect_ok_iff.mp hcollect).1

theorem SetFrom.trim_id (hset : SetFrom vs r) {l : Landmark α} (hl : l ∈ r.landmarks) :
    Text.trim l.id = l.id := by
  have hmem : .ok l ∈ (LandmarkMap.entries vs : List (Except Fault (Landmark α))) := by
    rw [hset.entries_eq]
    exact List.mem_map_of_mem hl
  obtain ⟨i, hi, hread⟩ := List.mem_mapIdx.mp hmem
  obtain ⟨es, _, hid⟩ := LandmarkMap.id_of_entryOf hread
  rw [hid, Text.trim_trim]

theorem SetFrom.exists_landmark (hset : SetFrom vs r) {es : List (Value × Value)} {v : Value}
    (hmem : .map es ∈ vs) (hid : Value.lookup "id" es = some v) :
    ∃ l ∈ r.landmarks, l.id = Text.trim v.text := by
  obtain ⟨i, hi, hentry⟩ := List.getElem_of_mem hmem
  have hgiven : (LandmarkMap.entryOf i (.map es) : Except Fault (Landmark α)) ∈
      r.landmarks.map .ok := by
    rw [← hset.entries_eq]
    exact List.mem_mapIdx.mpr ⟨i, hi, by rw [hentry]⟩
  obtain ⟨l, hl, hread⟩ := List.mem_map.mp hgiven
  obtain ⟨es', hsame, htrim⟩ := LandmarkMap.id_of_entryOf hread.symm
  cases hsame
  rw [hid] at htrim
  exact ⟨l, hl, htrim⟩

/-- A landmark is found under the text of its id exactly if there are no blanks to trim. -/
theorem SetFrom.lookup_eq_none_iff (hset : SetFrom vs r) {es : List (Value × Value)} {v : Value}
    (hmem : .map es ∈ vs) (hid : Value.lookup "id" es = some v) :
    r.lookup v.text = none ↔ Text.trim v.text ≠ v.text := by
  rw [lookup, List.find?_eq_none]
  constructor
  · intro hnone htrim
    obtain ⟨l, hl, hlid⟩ := hset.exists_landmark hmem hid
    have hne := hnone l hl
    simp [hlid, htrim] at hne
  · intro htrim l hl hsame
    have hlid : l.id = v.text := of_decide_eq_true hsame
    have hltrim := hset.trim_id hl
    rw [hlid] at hltrim
    exact htrim hltrim

end Registry

/-! ## One id in three places -/

/-- The same id, as it stands in the data, is among the targets of a configuration that was
accepted, in an entry of the map in use and in a detection of an event. -/
structure SameId (v : Value) (c : Config) (r : Registry α) (d : Detection α) : Prop where
  scalar : v.IsScalar
  target : ∃ document w vs, Config.ofDocument document = .ok c ∧
    Value.lookup "target_tag_ids" (Config.entriesOfDocument document) = some w ∧
    w.items = .ok vs ∧ v ∈ vs
  entry : ∃ vs es, Registry.SetFrom vs r ∧ .map es ∈ vs ∧ Value.lookup "id" es = some v
  detected : ∃ stamp sensor es, Event.detection stamp sensor (.map es) = .ok d ∧
    Value.lookup "id" es = some v

variable {v : Value} {c : Config} {r : Registry α} {d : Detection α}

theorem SameId.id_eq (hsame : SameId v c r d) : d.id = v.text := by
  obtain ⟨stamp, sensor, es, hread, hid⟩ := hsame.detected
  exact Event.id_of_detection hread hid

theorem SameId.listed (hsame : SameId v c r d) : d.id ∈ c.targets := by
  obtain ⟨document, w, vs, hread, hlookup, hitems, hmem⟩ := hsame.target
  have htargets := (Config.readFrom_of_ofDocument hread).targets
  rw [Config.fieldOf, hlookup] at htargets
  rw [hsame.id_eq]
  exact Config.text_mem_targets hitems hmem htargets

theorem SameId.lookup_eq_none_iff (hsame : SameId v c r d) :
    r.lookup d.id = none ↔ Text.trim v.text ≠ v.text := by
  obtain ⟨vs, es, hset, hmem, hid⟩ := hsame.entry
  rw [hsame.id_eq]
  exact hset.lookup_eq_none_iff hmem hid

namespace Judgement

variable [Numerics α] {f : FuserConfig α} {s : Services α}

theorem reason_ne_notWhitelisted (hlisted : d.id ∈ f.gates.whitelist) {why : Rejection α}
    (hrejected : (Judgement.of f s d).verdict = .ok (.rejected why)) :
    why.reason ≠ .notWhitelisted := by
  intro hreason
  have hfirst := firstFailing_of_rejected (judged_of f s d) hrejected
  rw [hreason] at hfirst
  exact hfirst.fails hlisted

theorem notInRegistry_iff (hlisted : d.id ∈ f.gates.whitelist) :
    (∃ why, (Judgement.of f s d).verdict = .ok (.rejected why) ∧
      why.reason = .notInRegistry) ↔ s.landmark d.id = none := by
  constructor
  · rintro ⟨why, hrejected, hreason⟩
    have hfirst := firstFailing_of_rejected (judged_of f s d) hrejected
    rw [hreason] at hfirst
    by_contra hfound
    obtain ⟨l, hl⟩ := Option.ne_none_iff_exists'.mp hfound
    exact hfirst.fails ⟨l, hlisted, hl⟩
  · intro hnone
    have hpass : (Gate.whitelist f.gates.whitelist d.id : Option (Rejection α)) = none := by
      simp [Gate.whitelist, hlisted]
    refine ⟨.notInRegistry d.id, ?_, rfl⟩
    simp only [Judgement.of, after, Services.askLandmark, hpass, hnone]
    rfl

end Judgement

/-- What becomes at the first two gates of a detection whose id is spelled as in the configuration
and in the map. -/
structure PassesUnlessPadded {σ : Type} (v : Value) (d : Detection α)
    (step : Fuser.Step σ (Outcome α)) : Prop where
  listed : ∀ why, step.result = .ok ⟨d.id, .rejected why⟩ → why.reason ≠ .notWhitelisted
  known_iff : (∀ why, step.result = .ok ⟨d.id, .rejected why⟩ → why.reason ≠ .notInRegistry) ↔
    Text.trim v.text = v.text
  known : (∀ text, v ≠ .str text) →
    ∀ why, step.result = .ok ⟨d.id, .rejected why⟩ → why.reason ≠ .notInRegistry

theorem process_sameId [Numerics α] {σ : Type} (hsame : SameId v c r d) (name : String)
    (frames : String → String → FrameReply α) (reference : Option (ReferencePose α))
    (publish : Publisher σ α) (solver : PoseSolver α) (state : Fuser.State σ) :
    PassesUnlessPadded v d
      (Fuser.process (Setup.ofConfig c name frames publish solver).fuser
        ⟨r.lookup, frames, reference⟩ publish state d) := by
  have hlisted : d.id ∈ (Setup.ofConfig c name frames publish solver).fuser.gates.whitelist :=
    hsame.listed
  have hknown :
      (∀ why, (Fuser.process (Setup.ofConfig c name frames publish solver).fuser
        ⟨r.lookup, frames, reference⟩ publish state d).result = .ok ⟨d.id, .rejected why⟩ →
          why.reason ≠ .notInRegistry) ↔ Text.trim v.text = v.text := by
    rw [← not_iff_not, ← ne_eq (Text.trim v.text), ← hsame.lookup_eq_none_iff,
      ← Judgement.notInRegistry_iff (s := ⟨r.lookup, frames, reference⟩) hlisted]
    simp only [Fuser.process, Fuser.settle_rejected_iff, not_forall, not_not, exists_prop]
  constructor
  case listed =>
    intro why hrejected
    exact Judgement.reason_ne_notWhitelisted hlisted (Fuser.settle_rejected_iff.mp hrejected)
  case known_iff => exact hknown
  case known =>
    intro htext
    exact hknown.mpr (Value.trim_text hsame.scalar htext)

/-! ## An id between blanks -/

def paddedId : Value := .str " 5 "

def paddedDocument : Value :=
  .map (Value.insert (.str "target_tag_ids") (.list [paddedId])
    (Config.entriesOfDocument (OriginScene.document 10)))

def paddedEntry : List (Value × Value) :=
  [(.str "id", paddedId), (.str "position", OriginScene.point)]

def paddedSighting : List (Value × Value) :=
  [(.str "id", paddedId), (.str "rvec", OriginScene.point), (.str "tvec", OriginScene.point)]

/-- The id ` 5 ` in all three places is not found on the map. -/
theorem process_sameId_padded :
    ∃ c, ∃ r : Registry Float, ∃ d, SameId paddedId c r d ∧
      ∃ why, (Fuser.process (Setup.ofConfig c "localizer" OriginScene.frames OriginScene.counter
          OriginScene.noSolver).fuser ⟨r.lookup, OriginScene.frames, none⟩ OriginScene.counter
          ⟨Tally.empty, 0⟩ d).result = .ok ⟨d.id, .rejected why⟩ ∧
        why.reason = .notInRegistry := by
  obtain ⟨c, hconfig⟩ := exists_of_isOk (x := Config.ofDocument paddedDocument)
    (by decide +kernel)
  obtain ⟨r, hcollect⟩ := exists_of_isOk
    (x := Registry.collect (LandmarkMap.entries (α := Float) [.map paddedEntry]))
    (by decide +kernel)
  obtain ⟨d, hdetection⟩ := exists_of_isOk
    (x := Event.detection (0 : Float) "camera" (.map paddedSighting)) (by decide +kernel)
  have hsame : SameId paddedId c r d := by
    constructor
    case scalar => exact .str _
    case target => exact ⟨paddedDocument, .list [paddedId], [paddedId], hconfig, rfl, rfl, by simp⟩
    case entry => exact ⟨[.map paddedEntry], paddedEntry, .event hcollect, by simp, rfl⟩
    case detected => exact ⟨0, "camera", paddedSighting, hdetection, rfl⟩
  refine ⟨c, r, d, hsame, ?_⟩
  have hpasses := process_sameId hsame "localizer" OriginScene.frames none OriginScene.counter
    OriginScene.noSolver ⟨Tally.empty, 0⟩
  have hpadded : Text.trim paddedId.text ≠ paddedId.text := by decide
  by_contra hnever
  apply hpadded
  apply hpasses.known_iff.mp
  intro why hrejected hreason
  exact hnever ⟨why, hrejected, hreason⟩

end Fiducial
