import Fiducial.Proofs.ExactArithmetic
import Fiducial.Proofs.MarkerDetections
import Fiducial.Proofs.RotationFormulas

/-!
# How far projected points miss an image

In exact arithmetic the error of a projection is the quadratic mean of the distances by which its
points miss those of the image, one distance for each point.  A quadratic mean of `n` distances is
at most the largest of them and at least the largest over `√n`.  So an error bounds every single
distance: none of the four corners of a marker is off by more than twice the error, and the bound
under which a marker is used is one on its corners.
-/

namespace Fiducial

noncomputable section

/-! ## Quadratic means -/

def quadraticMean (ds : List ℝ) : ℝ := √((ds.map (· ^ 2)).sum / ds.length)

namespace quadraticMean

variable {ds es : List ℝ} {d m : ℝ}

theorem sq_le_sum_sq (hd : d ∈ ds) : d ^ 2 ≤ (ds.map (· ^ 2)).sum := by
  apply List.single_le_sum _ _ (List.mem_map_of_mem hd)
  intro x hx
  obtain ⟨e, _, rfl⟩ := List.mem_map.mp hx
  exact sq_nonneg e

theorem sum_sq_le (hle : ∀ d ∈ ds, |d| ≤ m) : (ds.map (· ^ 2)).sum ≤ ds.length * m ^ 2 := by
  have hall : ∀ x ∈ ds.map (· ^ 2), x ≤ m ^ 2 := by
    intro x hx
    obtain ⟨d, hd, rfl⟩ := List.mem_map.mp hx
    exact sq_le_sq' (abs_le.mp (hle d hd)).1 (abs_le.mp (hle d hd)).2
  simpa using List.sum_le_card_nsmul _ (m ^ 2) hall

theorem perm (hperm : ds.Perm es) : quadraticMean ds = quadraticMean es := by
  rw [quadraticMean, quadraticMean, (hperm.map (· ^ 2)).sum_eq, hperm.length_eq]

theorem abs_div_sqrt_le (hd : d ∈ ds) : |d| / √ds.length ≤ quadraticMean ds :=
  calc
    |d| / √ds.length = √(d ^ 2 / ds.length) := by
      rw [Real.sqrt_div (sq_nonneg d), Real.sqrt_sq_eq_abs]
    _ ≤ quadraticMean ds := by
      apply Real.sqrt_le_sqrt
      gcongr
      exact sq_le_sum_sq hd

theorem le_of_all (hm : 0 ≤ m) (hle : ∀ d ∈ ds, |d| ≤ m) : quadraticMean ds ≤ m := by
  apply Real.sqrt_le_iff.mpr
  refine ⟨hm, ?_⟩
  apply div_le_of_le_mul₀ (Nat.cast_nonneg _) (sq_nonneg m)
  rw [mul_comm]
  exact sum_sq_le hle

theorem of_same (hne : ds ≠ []) (hm : 0 ≤ m) (hsame : ∀ d ∈ ds, d = m) :
    quadraticMean ds = m := by
  have hlength : (ds.length : ℝ) ≠ 0 := by simpa using hne
  rw [List.eq_replicate_of_mem hsame] at hlength ⊢
  simp only [quadraticMean, List.map_replicate, List.sum_replicate, List.length_replicate,
    nsmul_eq_mul] at hlength ⊢
  rw [mul_div_cancel_left₀ _ hlength, Real.sqrt_sq hm]

theorem eq_zero_iff : quadraticMean ds = 0 ↔ ∀ d ∈ ds, d = 0 := by
  constructor
  · intro hzero d hd
    have hlength : (0 : ℝ) < ds.length := Nat.cast_pos.mpr (List.length_pos_of_mem hd)
    have hle : |d| / √ds.length ≤ 0 := hzero ▸ abs_div_sqrt_le hd
    have habs : |d| ≤ 0 := by simpa using (div_le_iff₀ (Real.sqrt_pos.mpr hlength)).mp hle
    exact abs_nonpos_iff.mp habs
  · intro hall
    have hle : quadraticMean ds ≤ 0 := le_of_all le_rfl fun d hd => by simp [hall d hd]
    exact le_antisymm hle (Real.sqrt_nonneg _)

end quadraticMean

/-! ## Distances in an image -/

namespace Pixel

/-- How far apart two points of an image are. -/
def distance (p q : Pixel ℝ) : ℝ := √((p.u - q.u) ^ 2 + (p.v - q.v) ^ 2)

def shift (d p : Pixel ℝ) : Pixel ℝ := ⟨p.u + d.u, p.v + d.v⟩

variable (d p q : Pixel ℝ)

theorem distance_nonneg : 0 ≤ p.distance q := Real.sqrt_nonneg _

theorem distance_sq : p.distance q ^ 2 = p.distanceSq q := by
  rw [distance, Real.sq_sqrt (by positivity), distanceSq]
  ring

theorem distance_shift : p.distance (d.shift p) = √(d.u ^ 2 + d.v ^ 2) := by
  rw [distance, shift]
  congr 1
  ring

theorem distance_eq_zero_iff : p.distance q = 0 ↔ p = q := by
  constructor
  · intro hzero
    have hle := Real.sqrt_eq_zero'.mp hzero
    have hu : p.u = q.u := by nlinarith [sq_nonneg (p.u - q.u), sq_nonneg (p.v - q.v)]
    have hv : p.v = q.v := by nlinarith [sq_nonneg (p.u - q.u), sq_nonneg (p.v - q.v)]
    calc
      p = ⟨p.u, p.v⟩ := rfl
      _ = ⟨q.u, q.v⟩ := by rw [hu, hv]
  · rintro rfl
    simp [distance]

end Pixel

namespace Reprojection

variable {projected image : List (Pixel ℝ)}

/-- How far each projected point is from its point in the image. -/
def misses (projected image : List (Pixel ℝ)) : List ℝ :=
  (projected.zip image).map fun p => p.1.distance p.2

theorem length_misses (hlength : projected.length = image.length) :
    (misses projected image).length = projected.length := by
  simp [misses, hlength]

theorem nonneg_of_mem_misses {d : ℝ} (hd : d ∈ misses projected image) : 0 ≤ d := by
  obtain ⟨p, _, rfl⟩ := List.mem_map.mp hd
  exact Pixel.distance_nonneg _ _

theorem misses_eq_zero_iff (hlength : projected.length = image.length) :
    (∀ d ∈ misses projected image, d = 0) ↔ projected = image := by
  have hpairs : (∀ d ∈ misses projected image, d = 0) ↔
      ∀ {p q}, (p, q) ∈ projected.zip image → p = q := by
    rw [misses, List.forall_mem_map]
    simp only [Pixel.distance_eq_zero_iff, Prod.forall]
  have heq : projected = image ↔ projected.length = image.length ∧
      ∀ {p q}, (p, q) ∈ projected.zip image → p = q := by
    rw [← List.forall₂_eq_eq_eq]
    exact List.forall₂_iff_zip
  rw [hpairs, heq]
  exact ⟨fun hall => ⟨hlength, hall⟩, And.right⟩

theorem exists_worst (hsome : projected ≠ []) (hlength : projected.length = image.length) :
    ∃ worst, IsGreatest {d | d ∈ misses projected image} worst := by
  have hne : (misses projected image).toFinset.Nonempty := by
    rw [List.toFinset_nonempty_iff, ← List.length_pos_iff, length_misses hlength]
    exact List.length_pos_iff.mpr hsome
  have hgreatest := Finset.isGreatest_max' _ hne
  rw [List.coe_toFinset] at hgreatest
  exact ⟨_, hgreatest⟩

theorem misses_shift (d : Pixel ℝ) (projected : List (Pixel ℝ)) :
    misses projected (projected.map d.shift) =
      projected.map fun _ => √(d.u ^ 2 + d.v ^ 2) := by
  rw [misses, ← List.map_prod_left_eq_zip, List.map_map]
  exact List.map_congr_left fun p _ => d.distance_shift p

theorem error_eq (hlength : projected.length = image.length) :
    error projected image = .ok (quadraticMean (misses projected image)) := by
  have hpairs : pairUp projected image = .ok (projected.zip image) := if_pos hlength
  have hsquares : (projected.zip image).map (fun p => p.1.distanceSq p.2) =
      (misses projected image).map (· ^ 2) := by
    simp [misses, Pixel.distance_sq]
  have hmean (ds : List ℝ) : rootMeanSquare (ds.map (· ^ 2)) = quadraticMean ds := by
    simp [rootMeanSquare, total, quadraticMean, List.sum_eq_foldl]
  rw [error, hpairs]
  change Except.ok (rootMeanSquare _) = _
  rw [hsquares, hmean]

/-- What the error of as many projected points as an image has says of each of them. -/
structure Measures (projected image : List (Pixel ℝ)) (e : ℝ) : Prop where
  zero_iff : e = 0 ↔ projected = image
  shifted : ∀ d : Pixel ℝ, image = projected.map d.shift → e = √(d.u ^ 2 + d.v ^ 2)
  between : ∃ worst, IsGreatest {d | d ∈ misses projected image} worst ∧
    worst / √projected.length ≤ e ∧ e ≤ worst

theorem measures (hsome : projected ≠ []) (hlength : projected.length = image.length) :
    Measures projected image (quadraticMean (misses projected image)) := by
  constructor
  case zero_iff => rw [quadraticMean.eq_zero_iff, misses_eq_zero_iff hlength]
  case shifted =>
    rintro d rfl
    rw [misses_shift]
    apply quadraticMean.of_same _ (Real.sqrt_nonneg _)
    · simp
    · simpa using hsome
  case between =>
    obtain ⟨worst, hworst⟩ := exists_worst hsome hlength
    have hnonneg : 0 ≤ worst := nonneg_of_mem_misses hworst.1
    refine ⟨worst, hworst, ?_, ?_⟩
    · have hdiv := quadraticMean.abs_div_sqrt_le hworst.1
      rwa [abs_of_nonneg hnonneg, length_misses hlength] at hdiv
    · apply quadraticMean.le_of_all hnonneg
      intro d hd
      rw [abs_of_nonneg (nonneg_of_mem_misses hd)]
      exact hworst.2 hd

end Reprojection

/-! ## Projections -/

namespace PoseSolver

/-- Of the points that are projected, each becomes one point of the image. -/
def ProjectsEach (solver : PoseSolver ℝ) : Prop :=
  ∀ c r t points projected, solver.project c r t points = .ok projected →
    projected.length = points.length

/-- Where a point is projected does not depend on the points that are projected with it. -/
def ProjectsBy (solver : PoseSolver ℝ) (c : Calibration ℝ) (r t : Vec3 ℝ)
    (f : Vec3 ℝ → Pixel ℝ) : Prop :=
  ∀ points, points ≠ [] → solver.project c r t points = .ok (points.map f)

variable {solver : PoseSolver ℝ} {c : Calibration ℝ} {r t : Vec3 ℝ} {object object' : List (Vec3 ℝ)}
  {image image' projected : List (Pixel ℝ)} {f : Vec3 ℝ → Pixel ℝ}

theorem reprojectionError_eq (hproject : solver.project c r t object = .ok projected)
    (hlength : projected.length = image.length) :
    solver.reprojectionError c r t object image =
      .ok (quadraticMean (Reprojection.misses projected image)) := by
  rw [reprojectionError, hproject, ← Reprojection.error_eq hlength]
  rfl

theorem reprojectionError_by (hby : solver.ProjectsBy c r t f) (hsome : object ≠ [])
    (hlength : object.length = image.length) :
    solver.reprojectionError c r t object image =
      .ok (quadraticMean ((object.zip image).map fun p => (f p.1).distance p.2)) := by
  have hcount : (object.map f).length = image.length := by rw [List.length_map, hlength]
  rw [reprojectionError_eq (hby object hsome) hcount, Reprojection.misses, List.zip_map_left,
    List.map_map]
  rfl

theorem reprojectionError_perm (hby : solver.ProjectsBy c r t f) (hsome : object ≠ [])
    (hlength : object.length = image.length) (hlength' : object'.length = image'.length)
    (hperm : (object'.zip image').Perm (object.zip image)) :
    solver.reprojectionError c r t object' image' =
      solver.reprojectionError c r t object image := by
  have hcount : object'.length = object.length := by
    simpa [hlength, hlength'] using hperm.length_eq
  have hsome' : object' ≠ [] := by
    rwa [← List.length_pos_iff, hcount, List.length_pos_iff]
  rw [reprojectionError_by hby hsome hlength, reprojectionError_by hby hsome' hlength',
    quadraticMean.perm (hperm.map _)]

end PoseSolver

/-! ## Corners -/

theorem Tensor.length_of_points {t : Tensor} (hsize : t.size = 8) {ps : List (Float × Float)}
    (hpoints : t.points = .ok ps) : ps.length = 4 := by
  obtain ⟨shape, data⟩ := t
  match data, hsize with
  | [a, b, c, d, e, f, g, h], hsize =>
      rw [points, hsize, if_pos rfl] at hpoints
      cases hpoints
      rfl

theorem Tensor.size_of_reshape {t t' : Tensor} (hreshape : t.reshape [4, 2] = .ok t') :
    t'.size = 8 := by
  have hfill : fillShape? t.size [4, 2] = if 8 = t.size then some [4, 2] else none := rfl
  rw [reshape, hfill] at hreshape
  by_cases hsize : 8 = t.size
  · rw [if_pos hsize] at hreshape
    cases hreshape
    exact hsize.symm
  · rw [if_neg hsize] at hreshape
    cases hreshape

theorem Marker.length_of_seenCorners {seen : Value} {ps : List (Pixel Float)}
    (hseen : Marker.seenCorners seen = .ok ps) : ps.length = 4 := by
  unfold Marker.seenCorners at hseen
  obtain ⟨given, _, hseen⟩ := exists_of_bind_ok hseen
  obtain ⟨t, hreshape, hseen⟩ := exists_of_bind_ok hseen
  obtain ⟨pairs, hpairs, hseen⟩ := exists_of_bind_ok hseen
  have hcount := Tensor.length_of_points (Tensor.size_of_reshape hreshape) hpairs
  dsimp only at hseen
  split at hseen
  next =>
    cases hseen
    rw [List.length_map, hcount]
  next => cases hseen

namespace MarkerPose

section Corners

variable {solver : PoseSolver ℝ} {camera : Camera} {size seen : Value} {p : MarkerPose ℝ}
  {f : Fit ℝ} {bound : ℝ}

theorem exceeds_real (p : MarkerPose ℝ) (bound : ℝ) :
    p.exceeds bound = false ↔ p.error ≤ bound := by
  simp [exceeds]

/-- The four corners are projected no further than this from where they were seen. -/
def Fit.CornersWithin (f : Fit ℝ) (solver : PoseSolver ℝ) (radius : ℝ) : Prop :=
  ∃ projected, solver.project f.calibration f.rotation f.translation f.object = .ok projected ∧
    projected.length = 4 ∧ f.image.length = 4 ∧
      ∀ d ∈ Reprojection.misses projected f.image, d ≤ radius

theorem Fit.Locates.cornersWithin (hfit : f.Locates solver camera size seen p)
    (heach : solver.ProjectsEach) (hbound : p.exceeds bound = false) :
    f.CornersWithin solver (2 * bound) := by
  obtain ⟨side, _, hobject⟩ := hfit.object_eq
  obtain ⟨pixels, hpixels, himage⟩ := hfit.image_eq
  obtain ⟨projected, hproject, _⟩ := exists_of_bind_ok hfit.error_eq
  have hcount : projected.length = 4 := by
    rw [heach _ _ _ _ _ hproject, hobject]
    rfl
  have hseen : f.image.length = 4 := by
    rw [himage, List.length_map, Marker.length_of_seenCorners hpixels]
  have hlength : projected.length = f.image.length := hcount.trans hseen.symm
  refine ⟨projected, hproject, hcount, hseen, ?_⟩
  -- The root of four is the factor by which one of four distances may exceed their mean.
  intro d hd
  have herror : quadraticMean (Reprojection.misses projected f.image) = p.error :=
    Except.ok.inj ((PoseSolver.reprojectionError_eq hproject hlength).symm.trans hfit.error_eq)
  have hroot : √(4 : ℝ) = 2 := by
    rw [show (4 : ℝ) = 2 ^ 2 by norm_num]
    exact Real.sqrt_sq zero_le_two
  have hdiv := quadraticMean.abs_div_sqrt_le hd
  rw [herror, Reprojection.length_misses hlength, hcount, Nat.cast_ofNat, hroot] at hdiv
  calc
    d ≤ |d| := le_abs_self d
    _ = 2 * (|d| / 2) := by ring
    _ ≤ 2 * p.error := by gcongr
    _ ≤ 2 * bound := by
      gcongr
      exact (exceeds_real p bound).mp hbound

end Corners

end MarkerPose

namespace Localizer

theorem locate_of_detect {σ : Type} {s : Setup σ ℝ} {camera : Camera} {f : MarkerFrame}
    {m : Sighting} {d : Detection ℝ} (hdetect : (detect s camera f m).1 = .ok (some d)) :
    ∃ p, MarkerPose.locate s.solver camera s.markerSize m.corners = .ok p ∧
      p.exceeds (Scalar.ofFloat s.maxError.value) = false ∧ d.pose = p.pose := by
  unfold detect at hdetect
  cases hlocate : MarkerPose.locate s.solver camera s.markerSize m.corners with
  | error cause => simp [hlocate] at hdetect
  | ok p =>
      rw [hlocate] at hdetect
      dsimp only at hdetect
      by_cases hexceeds : p.exceeds (Scalar.ofFloat s.maxError.value) = true
      · rw [if_pos hexceeds] at hdetect
        cases hdetect
      · rw [if_neg hexceeds] at hdetect
        obtain ⟨id, _, hdetect⟩ := exists_of_bind_ok hdetect
        obtain ⟨stamp, _, hdetect⟩ := exists_of_bind_ok hdetect
        obtain ⟨sensor, _, hdetect⟩ := exists_of_bind_ok hdetect
        cases hdetect
        exact ⟨p, rfl, Bool.eq_false_of_not_eq_true hexceeds, rfl⟩

end Localizer

namespace PoseSolver

/-- What errors of projection say of single points, whatever the points and the markers. -/
structure BoundsMisses (solver : PoseSolver ℝ) : Prop where
  measured : ∀ c r t object image projected, object ≠ [] → object.length = image.length →
    solver.project c r t object = .ok projected →
      ∃ e, solver.reprojectionError c r t object image = .ok e ∧
        Reprojection.Measures projected image e
  reordered : ∀ c r t f, solver.ProjectsBy c r t f → ∀ object image object' image', object ≠ [] →
    object.length = image.length → object'.length = image'.length →
      (object'.zip image').Perm (object.zip image) →
        solver.reprojectionError c r t object' image' =
          solver.reprojectionError c r t object image
  located : ∀ camera size seen p bound, MarkerPose.locate solver camera size seen = .ok p →
    p.exceeds bound = false →
      ∃ f : MarkerPose.Fit ℝ, f.Locates solver camera size seen p ∧
        f.CornersWithin solver (2 * bound)
  /-- So it is for the markers that a localizer uses, with the bound of its setup. -/
  detected : ∀ (σ : Type) (s : Setup σ ℝ) camera frame m d, s.solver = solver →
    (Localizer.detect s camera frame m).1 = .ok (some d) →
      ∃ (p : MarkerPose ℝ) (f : MarkerPose.Fit ℝ), d.pose = p.pose ∧
        f.Locates solver camera s.markerSize m.corners p ∧
          f.CornersWithin solver (2 * Scalar.ofFloat s.maxError.value)

/-- The error of a projection of each point to one point bounds how far every single point is off,
whatever the projection. -/
theorem bounds_misses (solver : PoseSolver ℝ) (heach : solver.ProjectsEach) :
    solver.BoundsMisses := by
  constructor
  case measured =>
    intro c r t object image projected hsome hpaired hproject
    have hcount := heach _ _ _ _ _ hproject
    have hsome' : projected ≠ [] := by
      rwa [← List.length_pos_iff, hcount, List.length_pos_iff]
    have hlength := hcount.trans hpaired
    exact ⟨_, reprojectionError_eq hproject hlength, Reprojection.measures hsome' hlength⟩
  case reordered =>
    intro c r t f hby object image object' image' hsome hlength hlength' hperm
    exact reprojectionError_perm hby hsome hlength hlength' hperm
  case located =>
    intro camera size seen p bound hlocate hbound
    obtain ⟨f, hfit⟩ := MarkerPose.locate_ok_iff.mp hlocate
    exact ⟨f, hfit, hfit.cornersWithin heach hbound⟩
  case detected =>
    rintro σ s camera frame m d rfl hdetect
    obtain ⟨p, hlocate, hbound, hpose⟩ := Localizer.locate_of_detect hdetect
    obtain ⟨f, hfit⟩ := MarkerPose.locate_ok_iff.mp hlocate
    exact ⟨p, f, hpose, hfit, hfit.cornersWithin heach hbound⟩

end PoseSolver

/-! ## A camera without distortion -/

namespace Pinhole

/-- Points are divided by their depth, and every marker is found one metre ahead. -/
def solver : PoseSolver ℝ where
  solve _ _ _ := .ok (some (Vec3.zero, ⟨0, 0, 1⟩))
  project c r t points := .ok (points.map fun x =>
    let y := ((Rotation.ofVector r).apply x).add t
    ⟨c.matrix.r0.x * (y.x / y.z) + c.matrix.r0.z, c.matrix.r1.y * (y.y / y.z) + c.matrix.r1.z⟩)

theorem projectsEach : solver.ProjectsEach := by
  intro c r t points projected hproject
  cases hproject
  exact List.length_map _

theorem project_zero (c : Calibration ℝ) (t : Vec3 ℝ) (points : List (Vec3 ℝ)) :
    solver.project c Vec3.zero t points = .ok (points.map fun x =>
      ⟨c.matrix.r0.x * ((x.x + t.x) / (x.z + t.z)) + c.matrix.r0.z,
        c.matrix.r1.y * ((x.y + t.y) / (x.z + t.z)) + c.matrix.r1.z⟩) := by
  simp only [solver, Rotation.ofVector_zero, Mat3.apply_identity, Vec3.add]

def calibration : Calibration ℝ := ⟨⟨⟨800, 0, 320⟩, ⟨0, 800, 240⟩, ⟨0, 0, 1⟩⟩, []⟩

/-- A marker with sides of sixty centimetres, five metres ahead. -/
theorem project_farMarker :
    solver.project calibration Vec3.zero ⟨0, 0, 5⟩ (Marker.corners (3 / 5)) =
      .ok [⟨272, 192⟩, ⟨368, 192⟩, ⟨368, 288⟩, ⟨272, 288⟩] := by
  rw [project_zero]
  norm_num [Marker.corners, calibration]

/-- A marker with sides of two metres, one metre ahead, whose corners are seen in one point. -/
def nearFit : MarkerPose.Fit ℝ where
  calibration := ⟨⟨⟨1, 0, 0⟩, ⟨0, 1, 0⟩, ⟨0, 0, 1⟩⟩, []⟩
  object := Marker.corners (Scalar.ofFloat 2)
  image := List.replicate 4 ⟨0, 0⟩
  rotation := Vec3.zero
  translation := ⟨0, 0, 1⟩

def nearMarker : MarkerPose ℝ :=
  ⟨Transform.ofVectors Vec3.zero ⟨0, 0, 1⟩, Pixel.distance ⟨1, 1⟩ ⟨0, 0⟩⟩

theorem project_nearMarker :
    solver.project nearFit.calibration nearFit.rotation nearFit.translation nearFit.object =
      .ok [⟨-1, -1⟩, ⟨1, -1⟩, ⟨1, 1⟩, ⟨-1, 1⟩] := by
  rw [nearFit, project_zero]
  norm_num [Marker.corners, Scalar.ofFloat, Binary.value_two]

theorem error_nearMarker :
    solver.reprojectionError nearFit.calibration nearFit.rotation nearFit.translation
      nearFit.object nearFit.image = .ok nearMarker.error := by
  have hfour : nearFit.image.length = 4 := rfl
  have hnonneg : 0 ≤ nearMarker.error := Pixel.distance_nonneg _ _
  have hmisses : Reprojection.misses [⟨-1, -1⟩, ⟨1, -1⟩, ⟨1, 1⟩, ⟨-1, 1⟩] nearFit.image =
      List.replicate 4 nearMarker.error := by
    norm_num [Reprojection.misses, nearFit, nearMarker, Pixel.distance, List.replicate]
  rw [PoseSolver.reprojectionError_eq project_nearMarker hfour.symm, hmisses,
    quadraticMean.of_same (by simp) hnonneg (by simp)]

open Localizer.ThreeMarkers (camera cornersAt)

theorem locates_nearMarker :
    nearFit.Locates solver camera (.float 2) (cornersAt 0) nearMarker := by
  constructor
  case image_eq =>
    refine ⟨List.replicate 4 ⟨0, 0⟩, rfl, ?_⟩
    simp [nearFit, Pixel.map, Scalar.ofFloat, Binary.value_zero]
  case object_eq => exact ⟨2, rfl, rfl⟩
  case calibration_eq =>
    refine ⟨⟨⟨⟨1, 0, 0⟩, ⟨0, 1, 0⟩, ⟨0, 0, 1⟩⟩, []⟩, rfl, ?_⟩
    simp [nearFit, Calibration.map, Mat3.map, Vec3.map, Scalar.ofFloat, Binary.value_zero,
      Binary.value_one]
  case solved => rfl
  case pose_eq => rfl
  case checked =>
    simp [MarkerPose.isPlausible, nearMarker, Transform.ofVectors, Transform.rigid,
      Transform.isFinite, Mat3.isFinite, Vec3.isFinite]
  case error_eq => exact error_nearMarker

theorem bounds_misses_pinhole :
    solver.ProjectsEach ∧
      solver.reprojectionError calibration Vec3.zero ⟨0, 0, 5⟩ (Marker.corners (3 / 5))
        [⟨275, 196⟩, ⟨371, 196⟩, ⟨371, 292⟩, ⟨275, 292⟩] = .ok 5 ∧
      MarkerPose.locate solver camera (.float 2) (cornersAt 0) = .ok nearMarker ∧
      nearMarker.exceeds (3 / 2) = false ∧
      ∃ f : MarkerPose.Fit ℝ, f.Locates solver camera (.float 2) (cornersAt 0) nearMarker ∧
        f.CornersWithin solver (2 * (3 / 2)) := by
  have hbounds := PoseSolver.bounds_misses solver projectsEach
  have hlocate := MarkerPose.locate_ok_iff.mpr ⟨nearFit, locates_nearMarker⟩
  have hexceeds : nearMarker.exceeds (3 / 2) = false := by
    rw [MarkerPose.exceeds_real]
    exact Real.sqrt_le_iff.mpr ⟨by norm_num, by norm_num⟩
  obtain ⟨e, he, hmeasures⟩ := hbounds.measured calibration Vec3.zero ⟨0, 0, 5⟩
    (Marker.corners (3 / 5)) [⟨275, 196⟩, ⟨371, 196⟩, ⟨371, 292⟩, ⟨275, 292⟩] _
    (List.cons_ne_nil _ _) rfl project_farMarker
  have hshifted : e = √(3 ^ 2 + 4 ^ 2) :=
    hmeasures.shifted ⟨3, 4⟩ (by norm_num [Pixel.shift])
  have hfive : √(3 ^ 2 + 4 ^ 2 : ℝ) = 5 := by
    rw [show (3 ^ 2 + 4 ^ 2 : ℝ) = 5 ^ 2 by norm_num]
    exact Real.sqrt_sq (by norm_num)
  rw [hshifted, hfive] at he
  exact ⟨projectsEach, he, hlocate, hexceeds, hbounds.located _ _ _ _ _ hlocate hexceeds⟩

end Pinhole

end
end Fiducial
