import Fiducial.Landmark
import Fiducial.Json.Writer

/-!
# Pose logs

Estimates are written as records, one on a line.  A record needs the orientation of the estimate
as a quaternion, and an estimate that has none is refused before anything is written.  What is
written reaches the file when the log is flushed: after so many records, after so much time, or
when asked.
-/

namespace Fiducial

structure PoseLog where
  text : String
  written : Nat
  /-- Records since the last flush. -/
  unflushed : Nat
  flushes : Nat
  /-- After how many records the log is flushed; none or fewer is never. -/
  flushEvery : Int
  /-- After how many seconds the log is flushed; none or fewer is never. -/
  interval : Float
  lastFlush : Float
deriving Repr

namespace PoseLog

variable {α : Type} [Scalar α]

def number (a : α) : Value := .float (Scalar.toFloat a)

def numbers (as : List α) : Value := .list (as.map number)

/-- The record of these fields. -/
def recordOf (stamp : Value) (frame id : String)
    (position orientation heading covariance distance scale : Value) : Value :=
  .map [(.str "t", stamp), (.str "frame_id", .str frame), (.str "landmark_id", .str id),
    (.str "position", position), (.str "orientation_xyzw", orientation), (.str "yaw_rad", heading),
    (.str "covariance", covariance), (.str "distance_m", distance), (.str "scale", scale)]

/-- The record of an estimate. -/
def record [Numerics α] (e : Estimate α) : Except Fault Value := do
  let q ← Rotation.toQuaternion e.pose.rotation
  let heading ← Rotation.toHeading e.pose.rotation
  return recordOf (number e.stamp) e.frame e.id (numbers e.position.toList) (numbers q.toList)
    (number heading) (numbers e.covariance.entries) (number e.distance) (number e.scale)

def lineOf (record : Value) : String := Json.write Json.compact record ++ "\n"

def line [Numerics α] (e : Estimate α) : Except Fault String := (record e).map lineOf

/-- A log to which nothing is written yet. -/
def new (flushEvery : Int) (interval now : Float) : PoseLog :=
  ⟨"", 0, 0, 0, flushEvery, interval, now⟩

def flush (now : Float) (l : PoseLog) : PoseLog :=
  { l with unflushed := 0, flushes := l.flushes + 1, lastFlush := now }

/-- Whether enough records or enough time have passed. -/
def isDue (now : Float) (l : PoseLog) : Bool :=
  (0 < l.flushEvery && l.flushEvery ≤ l.unflushed) ||
    (0.0 < l.interval && l.interval ≤ now - l.lastFlush)

/-- The log with one more line, flushed if that is due. -/
def append (now : Float) (l : PoseLog) (line : String) : PoseLog :=
  let l := { l with text := l.text ++ line, written := l.written + 1, unflushed := l.unflushed + 1 }
  if l.isDue now then l.flush now else l

def publish [Numerics α] (now : Float) (l : PoseLog) (e : Estimate α) : Except Fault PoseLog :=
  (line e).map (l.append now)

end PoseLog
end Fiducial
