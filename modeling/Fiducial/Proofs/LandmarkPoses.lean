import Fiducial.Proofs.FiniteRotations
import Fiducial.Proofs.LandmarkRefusals
import Fiducial.Proofs.TrimmedText

/-!
# The poses of landmarks

An entry that is read gives a landmark at the given position, whose id has no blanks around it and
is not empty.  Its numbers are finite, yet its pose need not be: the length of a rotation vector is
a double too, and if it is beyond the doubles, the rotation is a matrix of no numbers.  That is the
only way to a pose that is not finite.
-/

namespace Fiducial
namespace LandmarkMap

/-- The landmark of an entry, with the sines and the cosines of a library of functions.  With those
of the doubles it is what is read from an entry of a map. -/
def entryWith (sin cos : Float → Float) (index : Int) (v : Value) :
    Except Fault (Landmark Float) :=
  @entryOf Float (Scalar.ofTrig sin cos) index v

/-! ## Vectors that are too long -/

section Lengths

variable {es : List (Value × Value)}

/-- The rotation is read from a vector whose length is beyond the doubles. -/
def TurnsTooFar (es : List (Value × Value)) : Prop :=
  ∃ v shape r, TurnsByVector es v ∧ Tensor.ofValue v = .ok ⟨shape, Vec3.toList r⟩ ∧
    r.norm.isFinite = false

theorem turnsTooFar_iff {v : Value} {shape : List Nat} {r : Vec3 Float}
    (hturns : TurnsByVector es v) (hread : Tensor.ofValue v = .ok ⟨shape, r.toList⟩) :
    TurnsTooFar es ↔ r.norm.isFinite = false := by
  constructor
  · intro hfar
    obtain ⟨v', shape', r', hturns', hread', hnorm⟩ := hfar
    have hv : v' = v := Option.some.inj (hturns'.1.symm.trans hturns.1)
    rw [hv, hread] at hread'
    have hr : r' = r := by
      cases r
      cases r'
      cases hread'
      rfl
    rw [← hr]
    exact hnorm
  · intro hnorm
    exact ⟨v, shape, r, hturns, hread, hnorm⟩

theorem not_turnsTooFar (hrvec : Value.lookup "rvec" es = none) : ¬ TurnsTooFar es := by
  intro hfar
  obtain ⟨v, _, _, hturns, _⟩ := hfar
  cases hrvec.symm.trans hturns.1

end Lengths

/-! ## Rotations of entries -/

section Rotations

variable {sin cos : Float → Float} {id : String} {es : List (Value × Value)} {m : Mat3 Float}

theorem isFinite_of_quaternion {field : String} {v : Value} {q : Quaternion Float}
    (hread : quaternion field v = .ok q) : q.IsFinite := by
  obtain ⟨xs, hxs, hq⟩ := exists_of_bind_ok hread
  obtain ⟨_, hlength, hfinite⟩ := numbers_ok_iff.mp hxs
  obtain ⟨x, y, z, w, rfl⟩ := List.length_eq_four.mp hlength
  cases hq
  simpa [Quaternion.IsFinite] using hfinite

theorem exists_of_orientationOf {field : String} {v : Value}
    (hread : @orientationOf Float (Scalar.ofTrig sin cos) field v = .ok m) :
    ∃ q : Quaternion Float, q.IsFinite ∧ q.toMatrix? = some m := by
  obtain ⟨q, hq, hmatrix⟩ := exists_of_bind_ok hread
  refine ⟨q, isFinite_of_quaternion hq, ?_⟩
  split at hmatrix
  next hm =>
    cases hmatrix
    exact hm
  next => cases hmatrix

/-- The rotation of an entry is that of a finite vector or of a finite quaternion. -/
theorem rotationOf_cases (hread : @rotationOf Float (Scalar.ofTrig sin cos) id es = .ok m) :
    (∃ v shape r, TurnsByVector es v ∧ Tensor.ofValue v = .ok ⟨shape, Vec3.toList r⟩ ∧
      r.isFinite = true ∧ m = @Rotation.ofVector Float (Scalar.ofTrig sin cos) r) ∨
      Value.lookup "rvec" es = none ∧
        ∃ q : Quaternion Float, q.IsFinite ∧ q.toMatrix? = some m := by
  unfold rotationOf at hread
  dsimp only at hread
  cases hrvec : Value.lookup "rvec" es with
  | some v =>
      rw [hrvec] at hread
      cases horientation : Value.lookup "orientation_xyzw" es with
      | some q =>
          rw [horientation] at hread
          cases hread
      | none =>
          rw [horientation] at hread
          obtain ⟨r, hr, hm⟩ := exists_of_bind_ok hread
          obtain ⟨⟨shape, harray⟩, hfinite⟩ := vector_ok_iff.mp hr
          exact .inl ⟨v, shape, r, ⟨hrvec, horientation⟩, harray, hfinite, (Except.ok.inj hm).symm⟩
  | none =>
      rw [hrvec] at hread
      exact .inr ⟨rfl, exists_of_orientationOf (mapError_ok_iff.mp hread)⟩

variable (htrig : IsTrigonometry sin cos)
  (hread : @rotationOf Float (Scalar.ofTrig sin cos) id es = .ok m)
include htrig hread

theorem isFinite_of_rotationOf (hnear : ¬ TurnsTooFar es) : m.isFinite = true := by
  rcases rotationOf_cases hread with ⟨v, shape, r, hturns, harray, hr, hm⟩ | ⟨_, q, hq, hm⟩
  · rw [turnsTooFar_iff hturns harray, Bool.not_eq_false] at hnear
    rw [hm]
    exact Rotation.isFinite_ofVector htrig hr hnear
  · exact Quaternion.isFinite_toMatrix hq hm

theorem hasNoNumber_of_rotationOf (hfar : TurnsTooFar es) : m.HasNoNumber := by
  rcases rotationOf_cases hread with ⟨v, shape, r, hturns, harray, _, hm⟩ | ⟨hrvec, _⟩
  · rw [turnsTooFar_iff hturns harray] at hfar
    rw [hm]
    exact Rotation.hasNoNumber_ofVector htrig hfar
  · exact absurd hfar (not_turnsTooFar hrvec)

end Rotations

/-! ## Landmarks of entries -/

/-- What holds of the landmark that an entry gives. -/
structure PlacedBy (es : List (Value × Value)) (l : Landmark Float) : Prop where
  id_given : ∃ v, Value.lookup "id" es = some v ∧ v ≠ .null ∧ l.id = Text.trim v.text
  id_trimmed : Text.trim l.id = l.id
  id_nonempty : l.id ≠ ""
  position_given : ∃ v shape, Value.lookup "position" es = some v ∧
    Tensor.ofValue v = .ok ⟨shape, l.pose.translation.toList⟩
  translation_finite : l.pose.translation.isFinite = true
  bottom_eq : l.pose.bottom = Vec3.zero
  corner_eq : l.pose.corner = 1.0
  finite_iff : l.pose.isFinite = true ↔ ¬ TurnsTooFar es
  no_rotation : TurnsTooFar es → l.pose.rotation.HasNoNumber

theorem exists_of_vector {field : String} {given : Option Value} {p : Vec3 Float}
    (hread : vector field (given.getD .null) = .ok p) :
    ∃ v shape, given = some v ∧ Tensor.ofValue v = .ok ⟨shape, p.toList⟩ := by
  obtain ⟨⟨shape, harray⟩, _⟩ := vector_ok_iff.mp hread
  cases given with
  | none => exact absurd (exists_vector_iff.mp ⟨p, hread⟩) not_isVector_null
  | some v => exact ⟨v, shape, rfl, harray⟩

theorem isFinite_rigid {m : Mat3 Float} {p : Vec3 Float} (hp : p.isFinite = true) :
    (Transform.rigid m p).isFinite = m.isFinite := by
  have hbottom : (Vec3.zero : Vec3 Float).isFinite = true := by decide +kernel
  have hcorner : (1.0 : Float).isFinite = true := by decide +kernel
  change (m.isFinite && p.isFinite && Vec3.zero.isFinite && (1.0 : Float).isFinite) = m.isFinite
  rw [hp, hbottom, hcorner, Bool.and_true, Bool.and_true, Bool.and_true]

/-- The landmark of an entry has a trimmed id and the given position.  Its pose is finite exactly if
the length of its rotation vector is, and without a rotation vector it always is. -/
theorem entryWith_placed {sin cos : Float → Float} (htrig : IsTrigonometry sin cos) {index : Int}
    {v : Value} {l : Landmark Float} (hread : entryWith sin cos index v = .ok l) :
    ∃ es, v = .map es ∧ PlacedBy es l := by
  unfold entryWith entryOf at hread
  split at hread
  next es =>
    obtain ⟨id, hid, hread⟩ := exists_of_bind_ok hread
    obtain ⟨p, hp, hread⟩ := exists_of_bind_ok hread
    obtain ⟨m, hm, hread⟩ := exists_of_bind_ok hread
    obtain ⟨given, hgiven, hnull, _, hblank, rfl⟩ := idOf_ok_iff.mp hid
    have hfinite : p.isFinite = true := (vector_ok_iff.mp hp).2
    have hl : l = ⟨Text.trim given.text, Transform.rigid m p⟩ := (Except.ok.inj hread).symm
    rw [hl]
    refine ⟨es, rfl, ?_⟩
    exact {
      id_given := ⟨given, hgiven, hnull, rfl⟩
      id_trimmed := Text.trim_trim given.text
      id_nonempty := Text.trim_ne_empty hblank
      position_given := exists_of_vector hp
      translation_finite := hfinite
      bottom_eq := rfl
      corner_eq := rfl
      finite_iff := by
        rw [isFinite_rigid hfinite]
        constructor
        · intro hrotation hfar
          exact (hasNoNumber_of_rotationOf htrig hm hfar).not_isFinite hrotation
        · exact isFinite_of_rotationOf htrig hm
      no_rotation := hasNoNumber_of_rotationOf htrig hm }
  next => cases hread

/-! ### A quarter turn and a turn beyond the doubles -/

/-- The sine of the double nearest to a quarter turn. -/
def quarterSin (x : Float) : Float := if x.isFinite then 1.0 else Binary.nan

/-- The cosine of the double nearest to a quarter turn. -/
def quarterCos (x : Float) : Float := if x.isFinite then 6.123233995736766e-17 else Binary.nan

theorem isTrigonometry_quarter : IsTrigonometry quarterSin quarterCos where
  sin_le x hx := by
    rw [quarterSin, if_pos hx]
    decide +kernel
  cos_le x hx := by
    rw [quarterCos, if_pos hx]
    decide +kernel
  cos_nan x hx := by
    rw [quarterCos, if_neg (Bool.eq_false_iff.mp hx)]
    decide +kernel

/-- The fields of a landmark that is turned about its first axis. -/
def turnedFields (angle : Float) : List (Value × Value) :=
  [(.str "id", .str "5"), (.str "position", .list [.int 0, .int 0, .int 0]),
    (.str "rvec", .list [.float angle, .int 0, .int 0])]

theorem turnsTooFar_turned_iff {angle : Float} : TurnsTooFar (turnedFields angle) ↔
    (⟨angle, 0.0, 0.0⟩ : Vec3 Float).norm.isFinite = false := by
  have hturns : TurnsByVector (turnedFields angle) (.list [.float angle, .int 0, .int 0]) :=
    ⟨rfl, rfl⟩
  have hread : Tensor.ofValue (.list [.float angle, .int 0, .int 0]) =
      .ok ⟨[3], (⟨angle, 0.0, 0.0⟩ : Vec3 Float).toList⟩ := rfl
  exact turnsTooFar_iff hturns hread

/-- A quarter turn gives a finite pose, and a rotation vector as long as `1e200` no rotation. -/
theorem entryWith_placed_turned : ∃ near far,
    entryWith quarterSin quarterCos 0 (.map (turnedFields 1.5707963267948966)) = .ok near ∧
      entryWith quarterSin quarterCos 0 (.map (turnedFields 1e200)) = .ok far ∧
      near.pose.isFinite = true ∧ far.pose.rotation.HasNoNumber := by
  obtain ⟨near, hnear⟩ := exists_of_isOk
    (x := entryWith quarterSin quarterCos 0 (.map (turnedFields 1.5707963267948966)))
    (by decide +kernel)
  obtain ⟨far, hfar⟩ := exists_of_isOk
    (x := entryWith quarterSin quarterCos 0 (.map (turnedFields 1e200))) (by decide +kernel)
  obtain ⟨_, hnearFields, hnearPlaced⟩ := entryWith_placed isTrigonometry_quarter hnear
  obtain ⟨_, hfarFields, hfarPlaced⟩ := entryWith_placed isTrigonometry_quarter hfar
  cases hnearFields
  cases hfarFields
  refine ⟨near, far, hnear, hfar, hnearPlaced.finite_iff.mpr ?_, hfarPlaced.no_rotation ?_⟩
  · rw [turnsTooFar_turned_iff]
    decide +kernel
  · rw [turnsTooFar_turned_iff]
    decide +kernel

end LandmarkMap
end Fiducial
