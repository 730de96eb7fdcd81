import Fiducial.PoseLog.Draft
import Fiducial.Proofs.Failures
import Fiducial.Proofs.JsonTexts

/-!
# The lines of a pose log

The record of an estimate has nine fields, which give the estimate with its rotation as a quaternion
and as a heading.  An estimate has a record if its rotation can be given so.  The line of a record
is read back as the record, whatever the names in it and whether or not its numbers are finite.
-/

namespace Fiducial.PoseLog

variable {α : Type} [Scalar α]

/-- What a record tells. -/
structure Contents (α : Type) where
  stamp : α
  frame : String
  id : String
  position : List α
  orientation : Quaternion α
  heading : α
  covariance : List α
  distance : α
  scale : α

/-- The nine fields of a record. -/
def Contents.fields (c : Contents α) : List (Value × Value) :=
  [(.str "t", .float (Scalar.toFloat c.stamp)), (.str "frame_id", .str c.frame),
    (.str "landmark_id", .str c.id),
    (.str "position", .list (c.position.map fun a => .float (Scalar.toFloat a))),
    (.str "orientation_xyzw", .list [.float (Scalar.toFloat c.orientation.x),
      .float (Scalar.toFloat c.orientation.y), .float (Scalar.toFloat c.orientation.z),
      .float (Scalar.toFloat c.orientation.w)]),
    (.str "yaw_rad", .float (Scalar.toFloat c.heading)),
    (.str "covariance", .list (c.covariance.map fun a => .float (Scalar.toFloat a))),
    (.str "distance_m", .float (Scalar.toFloat c.distance)),
    (.str "scale", .float (Scalar.toFloat c.scale))]

/-- What the record of an estimate tells, with its rotation as a quaternion and as a heading. -/
structure Tells [Numerics α] (e : Estimate α) (c : Contents α) : Prop where
  stamp_eq : c.stamp = e.stamp
  frame_eq : c.frame = e.frame
  id_eq : c.id = e.id
  position_eq :
    c.position = [e.pose.translation.x, e.pose.translation.y, e.pose.translation.z]
  orientation : Rotation.toQuaternion e.pose.rotation = .ok c.orientation
  heading : Rotation.toHeading e.pose.rotation = .ok c.heading
  covariance_eq : c.covariance = e.covariance.entries
  distance_eq : c.distance = e.distance
  scale_eq : c.scale = e.scale

/-- What the record of an estimate that is given as data tells. -/
structure Draft.Tells [Numerics Float] (d : Draft) (c : Contents Float) : Prop where
  stamp : d.stamp.toFloat = .ok c.stamp
  frame : d.frame.name = .ok c.frame
  id : d.id.name = .ok c.id
  position : Gate.RawConfig.lastColumn d.pose = .ok c.position
  rotation : ∃ r, d.pose.upperLeft = .ok r ∧ Rotation.toQuaternion r = .ok c.orientation ∧
    Rotation.toHeading r = .ok c.heading
  covariance : ∃ items, d.covariance.items = .ok items ∧
    items.mapM Value.toFloat = .ok c.covariance
  distance : d.distance.toFloat = .ok c.distance
  scale : d.scale.toFloat = .ok c.scale

theorem record_eq_ok_iff [Numerics α] (e : Estimate α) (r : Value) :
    record e = .ok r ↔ ∃ c, Tells e c ∧ r = .map c.fields := by
  constructor
  · intro hrecord
    obtain ⟨q, hq, hrecord⟩ := exists_of_bind_ok hrecord
    obtain ⟨heading, hheading, hrecord⟩ := exists_of_bind_ok hrecord
    exact ⟨⟨e.stamp, e.frame, e.id, e.position.toList, q, heading, e.covariance.entries,
      e.distance, e.scale⟩, ⟨rfl, rfl, rfl, rfl, hq, hheading, rfl, rfl, rfl⟩,
      (Except.ok.inj hrecord).symm⟩
  · rintro ⟨c, ⟨hstamp, hframe, hid, hposition, hq, hheading, hcovariance, hdistance, hscale⟩, rfl⟩
    simp only [record, hq, hheading, bind, Except.bind, pure, Except.pure]
    simp only [Contents.fields, hstamp, hframe, hid, hposition, hcovariance, hdistance, hscale]
    rfl

theorem Draft.record_eq_ok_iff [Numerics Float] (d : Draft) (r : Value) :
    d.record = .ok r ↔ ∃ c, d.Tells c ∧ r = .map c.fields := by
  constructor
  · intro hrecord
    obtain ⟨stamp, hstamp, hrecord⟩ := exists_of_bind_ok hrecord
    obtain ⟨frame, hframe, hrecord⟩ := exists_of_bind_ok hrecord
    obtain ⟨id, hid, hrecord⟩ := exists_of_bind_ok hrecord
    obtain ⟨position, hposition, hrecord⟩ := exists_of_bind_ok hrecord
    obtain ⟨rotation, hrotation, hrecord⟩ := exists_of_bind_ok hrecord
    obtain ⟨q, hq, hrecord⟩ := exists_of_bind_ok hrecord
    obtain ⟨heading, hheading, hrecord⟩ := exists_of_bind_ok hrecord
    obtain ⟨items, hitems, hrecord⟩ := exists_of_bind_ok hrecord
    obtain ⟨covariance, hcovariance, hrecord⟩ := exists_of_bind_ok hrecord
    obtain ⟨distance, hdistance, hrecord⟩ := exists_of_bind_ok hrecord
    obtain ⟨scale, hscale, hrecord⟩ := exists_of_bind_ok hrecord
    exact ⟨⟨stamp, frame, id, position, q, heading, covariance, distance, scale⟩,
      ⟨hstamp, hframe, hid, hposition, ⟨rotation, hrotation, hq, hheading⟩,
        ⟨items, hitems, hcovariance⟩, hdistance, hscale⟩, (Except.ok.inj hrecord).symm⟩
  · rintro ⟨c, ⟨hstamp, hframe, hid, hposition, ⟨rotation, hrotation, hq, hheading⟩,
      ⟨items, hitems, hcovariance⟩, hdistance, hscale⟩, rfl⟩
    simp only [Draft.record, hstamp, hframe, hid, hposition, hrotation, hq, hheading, hitems,
      hcovariance, hdistance, hscale, bind, Except.bind, pure, Except.pure]
    rfl

/-! ## Reading a line -/

theorem plain_fields (c : Contents α) : Json.Plain (.map c.fields) := by
  simp [Json.Plain, Json.PlainEntries, Json.plainItems_iff, Contents.fields]

theorem depth_fields (c : Contents α) : Json.depth (.map c.fields) = 2 := by
  -- The lists in a record hold numbers only, so a record is two deep however long they are.
  have hnumbers (as : List α) :
      Json.depthOfItems (as.map fun a => .float (Scalar.toFloat a)) = 0 :=
    Nat.le_zero.mp (Json.depthOfItems_le_iff.mpr (by simp [Json.depth]))
  simp [Json.depth, Json.depthOfEntries, Json.depthOfItems, Contents.fields, hnumbers]

/-- The text of a record is read back as the record. -/
theorem read_write_fields (c : Contents α) :
    Json.read (Json.write Json.compact (.map c.fields)) = .ok (.map c.fields) :=
  Json.read_write Json.separates_compact (plain_fields c) (by rw [depth_fields]; decide)

end Fiducial.PoseLog
