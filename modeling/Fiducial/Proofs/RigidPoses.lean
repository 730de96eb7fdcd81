import Fiducial.Config.File
import Fiducial.LandmarkMap.Reader
import Fiducial.Event.Basic
import Fiducial.Proofs.ConversionFaults
import Fiducial.Proofs.FrameRoutes
import Fiducial.Proofs.RotationFormulas

/-!
# Rigid poses from data

Every pose that is read from data is made of a rotation and a position, so in exact arithmetic it is
rigid: those of the fixed transforms of a configuration, of the landmarks of a map and of the
detections of an event.  Therefore every transform that is found between the frames of a vehicle is
rigid too, whichever way leads from one to the other.
-/

namespace Fiducial

/-! ## Results of several conversions -/

section Results

variable {β γ : Type}

/-- A fold keeps what each of its steps keeps. -/
theorem foldlM_ok_keeps {P : γ → Prop} {g : γ → β → Except Fault γ} {bs : List β}
    (hstep : ∀ c, ∀ b ∈ bs, ∀ c', P c → g c b = .ok c' → P c') {c c' : γ} (hstart : P c)
    (hfold : bs.foldlM g c = .ok c') : P c' := by
  induction bs generalizing c with
  | nil =>
      cases hfold
      exact hstart
  | cons b bs ih =>
      rw [List.foldlM_cons] at hfold
      obtain ⟨d, hd, hrest⟩ := exists_of_bind_ok hfold
      have hnext : P d := hstep c b List.mem_cons_self d hstart hd
      exact ih (fun c b hb => hstep c b (List.mem_cons_of_mem _ hb)) hnext hrest

end Results

/-! ## Poses that are read -/

theorem StaticTransform.isRigid_transform {s : StaticTransform} {t : Transform ℝ}
    (hread : s.transform = .ok t) : t.IsRigid := by
  unfold StaticTransform.transform at hread
  obtain ⟨entries, _, hrotation⟩ := exists_of_bind_ok hread
  obtain ⟨q, _, hmatrix⟩ := exists_of_bind_ok hrotation
  cases hm : (q.map Scalar.ofFloat : Quaternion ℝ).toMatrix? with
  | none =>
      rw [hm] at hmatrix
      cases hmatrix
  | some m =>
      rw [hm] at hmatrix
      obtain ⟨numbers, _, htranslation⟩ := exists_of_bind_ok hmatrix
      obtain ⟨v, _, hrigid⟩ := exists_of_bind_ok htranslation
      cases hrigid
      exact Transform.isRigid_rigid (Quaternion.isRotation_toMatrix hm) _

namespace LandmarkMap

theorem isRotation_orientationOf {field : String} {v : Value} {m : Mat3 ℝ}
    (hread : orientationOf field v = .ok m) : m.IsRotation := by
  obtain ⟨q, _, hmatrix⟩ := exists_of_bind_ok hread
  cases hm : (q.map Scalar.ofFloat : Quaternion ℝ).toMatrix? with
  | none =>
      rw [hm] at hmatrix
      cases hmatrix
  | some m =>
      rw [hm] at hmatrix
      cases hmatrix
      exact Quaternion.isRotation_toMatrix hm

theorem isRotation_rotationOf {id : String} {es : List (Value × Value)} {m : Mat3 ℝ}
    (hread : rotationOf id es = .ok m) : m.IsRotation := by
  unfold rotationOf at hread
  split at hread
  next => cases hread
  next =>
    obtain ⟨r, _, hvector⟩ := exists_of_bind_ok hread
    cases hvector
    exact Rotation.isRotation_ofVector _
  next => exact isRotation_orientationOf (mapError_ok_iff.mp hread)

theorem isRigid_entryOf {index : Int} {v : Value} {l : Landmark ℝ}
    (hread : entryOf index v = .ok l) : l.pose.IsRigid := by
  unfold entryOf at hread
  split at hread
  next es =>
    obtain ⟨id, _, hentry⟩ := exists_of_bind_ok hread
    obtain ⟨position, _, hplaced⟩ := exists_of_bind_ok hentry
    obtain ⟨rotation, hrotation, hl⟩ := exists_of_bind_ok hplaced
    cases hl
    exact Transform.isRigid_rigid (isRotation_rotationOf hrotation) _
  next => cases hread

theorem isRigid_entries {vs : List Value} {l : Landmark ℝ}
    (hmem : .ok l ∈ (entries vs : List (Except Fault (Landmark ℝ)))) : l.pose.IsRigid := by
  obtain ⟨i, hi, hread⟩ := List.mem_mapIdx.mp hmem
  exact isRigid_entryOf hread

theorem isRigid_load [Yaml.Library] {tree : FileTree} {path : Path} {ls : List (Landmark ℝ)}
    (hload : load tree path = .ok ls) : ∀ l ∈ ls, l.pose.IsRigid := by
  obtain ⟨v, _, hlisted⟩ := exists_of_bind_ok hload
  obtain ⟨vs, _, hlandmarks⟩ := exists_of_bind_ok hlisted
  refine forall_of_mapM_ok (P := fun l => l.pose.IsRigid) ?_ hlandmarks
  rintro _ hmem l rfl
  exact isRigid_entries hmem

end LandmarkMap

namespace Event

variable {es : List (Value × Value)}

theorem isRigid_detection {stamp : ℝ} {sensor : String} {v : Value} {d : Detection ℝ}
    (hread : detection stamp sensor v = .ok d) : d.pose.IsRigid := by
  unfold detection at hread
  obtain ⟨id, _, hnamed⟩ := exists_of_bind_ok hread
  obtain ⟨name, _, hturned⟩ := exists_of_bind_ok hnamed
  obtain ⟨r, _, hmoved⟩ := exists_of_bind_ok hturned
  obtain ⟨p, _, hd⟩ := exists_of_bind_ok hmoved
  cases hd
  exact Transform.isRigid_rigid (Rotation.isRotation_ofVector _) _

theorem isRigid_detections {ds : List (Detection ℝ)} (hread : detections es = .ok ds) :
    ∀ d ∈ ds, d.pose.IsRigid := by
  unfold detections at hread
  obtain ⟨t, _, hsensor⟩ := exists_of_bind_ok hread
  obtain ⟨frame, _, hnamed⟩ := exists_of_bind_ok hsensor
  obtain ⟨sensor, _, hlisted⟩ := exists_of_bind_ok hnamed
  obtain ⟨vs, _, hds⟩ := exists_of_bind_ok hlisted
  exact forall_of_mapM_ok (fun _ _ _ => isRigid_detection) hds

theorem isRigid_landmarks {ls : List (Except Fault (Landmark ℝ))}
    (hread : landmarks es = .ok ls) {l : Landmark ℝ} (hmem : .ok l ∈ ls) : l.pose.IsRigid := by
  obtain ⟨vs, _, hls⟩ := exists_of_bind_ok hread
  cases hls
  exact LandmarkMap.isRigid_entries hmem

end Event

/-! ## Registries -/

/-- A registry is rigid if the landmarks are from which it is made. -/
theorem Registry.isRigid_collect {ls : List (Except Fault (Landmark ℝ))} {r : Registry ℝ}
    (hrigid : ∀ l, .ok l ∈ ls → l.pose.IsRigid) (hcollect : collect ls = .ok r) :
    ∀ l ∈ r.landmarks, l.pose.IsRigid := by
  let Rigidly (r : Registry ℝ) : Prop := ∀ l ∈ r.landmarks, l.pose.IsRigid
  have hstart : Rigidly empty := List.forall_mem_nil _
  refine foldlM_ok_keeps (P := Rigidly) ?_ hstart hcollect
  intro r given hgiven r' hr hadded
  obtain ⟨l, rfl, hadd⟩ := exists_of_bind_ok hadded
  unfold add at hadd
  split at hadd
  next => cases hadd
  next =>
    cases hadd
    exact List.forall_mem_append.mpr ⟨hr, List.forall_mem_singleton.mpr (hrigid l hgiven)⟩

/-! ## Frames -/

namespace FrameGraph

variable {edges : List (FrameEdge ℝ)} {a b : String}

theorem Crosses.isRigid (hedges : ∀ e ∈ edges, e.transform.IsRigid) {t : Transform ℝ}
    (hcross : Crosses edges a t b) : t.IsRigid := by
  cases hcross with
  | down e he => exact hedges e he
  | up e he => exact (hedges e he).invert

theorem Route.isRigid_along (hedges : ∀ e ∈ edges, e.transform.IsRigid)
    {ts : List (Transform ℝ)} (hroute : Route edges a ts b) : (along ts).IsRigid := by
  induction hroute with
  | stay => exact Transform.isRigid_identity
  | cross hprior hcross ih =>
      rw [along_concat]
      exact ih.compose (hcross.isRigid hedges)

/-- Between frames that are linked by rigid transforms only rigid ones are found. -/
theorem isRigid_lookup {g : FrameGraph ℝ} (hg : Records g edges)
    (hedges : ∀ e ∈ edges, e.transform.IsRigid) {t : Transform ℝ}
    (hfound : g.lookup a b = .found t) : t.IsRigid := by
  by_cases hsame : a = b
  · unfold lookup at hfound
    rw [if_pos hsame] at hfound
    cases hfound
    exact Transform.isRigid_identity
  · obtain ⟨ts, hroute, hproduct, _⟩ := lookup_shortest hg hsame hfound
    rw [hproduct]
    exact hroute.isRigid_along hedges

/-- The edges of the fixed transforms of a configuration. -/
theorem records_ofStatic {ss : List StaticTransform} {g : FrameGraph ℝ}
    (hbuild : ofStatic ss = .ok g) :
    ∃ edges, Records g edges ∧ ∀ e ∈ edges, e.transform.IsRigid := by
  let Rigidly (g : FrameGraph ℝ) : Prop :=
    ∃ edges, Records g edges ∧ ∀ e ∈ edges, e.transform.IsRigid
  have hstart : Rigidly empty := ⟨[], records_empty, List.forall_mem_nil _⟩
  refine foldlM_ok_keeps (P := Rigidly) ?_ hstart hbuild
  rintro g s _ g' ⟨edges, hg, hedges⟩ hadded
  obtain ⟨t, ht, hnamed⟩ := exists_of_bind_ok hadded
  obtain ⟨parent, _, hchild⟩ := exists_of_bind_ok hnamed
  obtain ⟨child, _, hadd⟩ := exists_of_bind_ok hchild
  let edge : FrameEdge ℝ := ⟨parent, child, t⟩
  have hedge : edge.transform.IsRigid := StaticTransform.isRigid_transform ht
  exact ⟨edges ++ [edge], hg.concat (e := edge) hadd,
    List.forall_mem_append.mpr ⟨hedges, List.forall_mem_singleton.mpr hedge⟩⟩

theorem isRigid_lookup_ofStatic {ss : List StaticTransform} {g : FrameGraph ℝ}
    (hbuild : ofStatic ss = .ok g) {target source : String} {t : Transform ℝ}
    (hfound : g.lookup target source = .found t) : t.IsRigid := by
  obtain ⟨edges, hg, hedges⟩ := records_ofStatic hbuild
  exact isRigid_lookup hg hedges hfound

end FrameGraph

end Fiducial
