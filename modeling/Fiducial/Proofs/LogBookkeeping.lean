import Fiducial.Proofs.OriginScene
import Fiducial.Proofs.RecordLines
import Fiducial.Proofs.WrittenLines

/-!
# The books of a pose log

A pose log that is flushed by count alone is followed through any sequence of calls.  How many
records wait for a flush is also counted from outside, from what is written and flushed; the log's
own count agrees with it, and from the two counts follows when the log flushes by itself.  Every
record is one line of the text, since no character of its identifiers ends a line there, and the
line is read back as the record.
-/

namespace Fiducial.PoseLog

/-! ## Calls -/

/-- A call on a log, with the time at which it is made. -/
inductive Call (α : Type) where
  | publish (now : Float) (e : Estimate α)
  | publishDraft (now : Float) (d : Draft)
  | flush (now : Float)

section Calls

variable {α : Type}

def Call.time : Call α → Float
  | .publish now _ | .publishDraft now _ | .flush now => now

def Call.isFlush : Call α → Bool
  | .flush _ => true
  | .publish .. | .publishDraft .. => false

variable [Scalar α] [Numerics α] [Numerics Float]

/-- The record that a call is to write, or the fault that it ends with; none is written by a
flush. -/
def Call.record? : Call α → Option (Except Fault Value)
  | .publish _ e => some (PoseLog.record e)
  | .publishDraft _ d => some d.record
  | .flush _ => none

/-- The record that a call writes. -/
def Call.writes? (call : Call α) : Option Value := call.record?.bind Except.toOption

/-- The record tells what the call publishes. -/
def Call.Tells (call : Call α) (r : Value) : Prop :=
  match call with
  | .publish _ e => ∃ c, PoseLog.Tells e c ∧ r = .map c.fields
  | .publishDraft _ d => ∃ c, d.Tells c ∧ r = .map c.fields
  | .flush _ => False

/-- The records that the calls write, in their order. -/
def records (calls : List (Call α)) : List Value := calls.filterMap Call.writes?

def perform (l : PoseLog) : Call α → Except Fault PoseLog
  | .publish now e => l.publish now e
  | .publishDraft now d => l.publishDraft now d
  | .flush now => .ok (l.flush now)

/-- The log after a call, whether or not the call returns. -/
def after (l : PoseLog) (call : Call α) : PoseLog := (l.perform call).toOption.getD l

/-! ## What a call does -/

theorem perform_of_record (l : PoseLog) {call : Call α} {r : Except Fault Value}
    (hrecord : call.record? = some r) :
    l.perform call = r.map fun record => l.append call.time (lineOf record) := by
  cases call with
  | publish now e =>
      cases Option.some.inj hrecord
      cases hline : PoseLog.record e <;> simp [perform, publish, line, hline, Except.map, Call.time]
  | publishDraft now d =>
      cases Option.some.inj hrecord
      rfl
  | flush now => cases hrecord

theorem perform_flush (l : PoseLog) {call : Call α} (hflush : call.record? = none) :
    l.perform call = .ok (l.flush call.time) := by
  cases call with
  | publish now e => cases hflush
  | publishDraft now d => cases hflush
  | flush now => rfl

theorem isFlush_eq (call : Call α) : call.isFlush = call.record?.isNone := by
  cases call <;> rfl

theorem writes?_eq_some_iff (call : Call α) (r : Value) :
    call.writes? = some r ↔ call.Tells r := by
  have hrecord : call.writes? = some r ↔ call.record? = some (.ok r) := by
    rw [Call.writes?]
    rcases call.record? with _ | (f | record) <;> simp [Except.toOption]
  rw [hrecord]
  cases call with
  | publish now e =>
      exact Option.some_inj.trans (record_eq_ok_iff e r)
  | publishDraft now d => exact Option.some_inj.trans (d.record_eq_ok_iff r)
  | flush now => simp [Call.record?, Call.Tells]

/-- The line of a record is read back as the record. -/
theorem read_of_tells {call : Call α} {r : Value} (htells : call.Tells r) :
    Json.read (Json.write Json.compact r) = .ok r := by
  cases call with
  | publish now e =>
      obtain ⟨c, -, rfl⟩ := htells
      exact read_write_fields c
  | publishDraft now d =>
      obtain ⟨c, -, rfl⟩ := htells
      exact read_write_fields c
  | flush now => cases htells

/-- A call ends with a fault if its record has one. -/
theorem perform_eq_error_iff (l : PoseLog) (call : Call α) (f : Fault) :
    l.perform call = .error f ↔ call.record? = some (.error f) := by
  cases hrecord : call.record? with
  | none => simp [perform_flush l hrecord]
  | some r => cases r <;> simp [perform_of_record l hrecord, Except.map]

end Calls

/-! ## A log seen from outside -/

/-- A log, with the records that were written to it since it was last flushed. -/
structure Watched where
  log : PoseLog
  pending : Nat

section Watching

variable {α : Type} [Scalar α] [Numerics α] [Numerics Float]

/-- A reader of the file sees what has been written to it and that it was flushed. -/
def Watched.next (w : Watched) (call : Call α) : Watched :=
  let l := w.log.after call
  ⟨l, if l.flushes = w.log.flushes then w.pending + (l.written - w.log.written) else 0⟩

def watch (l : PoseLog) (calls : List (Call α)) : Watched := calls.foldl Watched.next ⟨l, 0⟩

theorem watch_snoc (l : PoseLog) (calls : List (Call α)) (call : Call α) :
    watch l (calls ++ [call]) = (watch l calls).next call :=
  List.foldl_append ..

/-- How a watched log stands after calls, when records have it flushed and time does not. -/
structure Kept (n : Int) (calls : List (Call α)) (w : Watched) : Prop where
  flushEvery_eq : w.log.flushEvery = n
  interval_off : ¬0.0 < w.log.interval
  written_eq : w.log.written = (records calls).length
  text_eq : w.log.text = String.join ((records calls).map lineOf)
  unflushed_eq : w.log.unflushed = w.pending
  pending_lt : 0 < n → w.pending < n
  explicit_only : n ≤ 0 → w.log.flushes = calls.countP Call.isFlush

theorem kept_new (n : Int) {interval : Float} (start : Float) (hoff : ¬0.0 < interval) :
    Kept n ([] : List (Call α)) (watch (PoseLog.new n interval start) ([] : List (Call α))) where
  flushEvery_eq := rfl
  interval_off := hoff
  written_eq := rfl
  text_eq := rfl
  unflushed_eq := rfl
  pending_lt := id
  explicit_only _ := rfl

namespace Kept

variable {n : Int} {calls : List (Call α)} {w : Watched}

/-- The log is due once as many records wait as it is to be flushed after. -/
theorem append_eq (hw : Kept n calls w) (now : Float) (line : String) :
    w.log.append now line =
      if 0 < n ∧ n = w.pending + 1 then
        { w.log with
          text := w.log.text ++ line, written := w.log.written + 1, unflushed := 0,
          flushes := w.log.flushes + 1, lastFlush := now }
      else
        { w.log with
          text := w.log.text ++ line, written := w.log.written + 1,
          unflushed := w.pending + 1 } := by
  -- Fewer than `n` were waiting, so the count cannot have passed `n` unnoticed.
  have hdue : (0 < n ∧ n ≤ w.pending + 1) ↔ (0 < n ∧ n = w.pending + 1) := by
    constructor
    · rintro ⟨hpos, hle⟩
      exact ⟨hpos, le_antisymm hle (by have := hw.pending_lt hpos; omega)⟩
    · exact fun ⟨hpos, heq⟩ => ⟨hpos, heq.le⟩
  simp only [append, isDue, flush, hw.flushEvery_eq, hw.interval_off, hw.unflushed_eq,
    decide_false, Bool.false_and, Bool.or_false, Bool.and_eq_true, decide_eq_true_eq,
    Nat.cast_add, Nat.cast_one, hdue]

theorem next_of_error {call : Call α} {f : Fault} (w : Watched)
    (hrecord : call.record? = some (.error f)) : w.next call = w := by
  have hafter : w.log.after call = w.log := by
    rw [after, perform_of_record w.log hrecord]
    rfl
  simp [Watched.next, hafter]

theorem next_of_flush {call : Call α} (w : Watched) (hrecord : call.record? = none) :
    w.next call = ⟨w.log.flush call.time, 0⟩ := by
  have hafter : w.log.after call = w.log.flush call.time := by
    rw [after, perform_flush w.log hrecord]
    rfl
  simp [Watched.next, hafter, flush]

/-- A record that makes up the number flushes the log, and any other waits. -/
theorem next_of_record (hw : Kept n calls w) {call : Call α} {record : Value}
    (hrecord : call.record? = some (.ok record)) :
    w.next call =
      if 0 < n ∧ n = w.pending + 1 then
        ⟨{ w.log with
          text := w.log.text ++ lineOf record, written := w.log.written + 1, unflushed := 0,
          flushes := w.log.flushes + 1, lastFlush := call.time }, 0⟩
      else
        ⟨{ w.log with
          text := w.log.text ++ lineOf record, written := w.log.written + 1,
          unflushed := w.pending + 1 }, w.pending + 1⟩ := by
  have hafter : w.log.after call = w.log.append call.time (lineOf record) := by
    rw [after, perform_of_record w.log hrecord]
    rfl
  rw [Watched.next, hafter, hw.append_eq]
  split <;> simp

/-- A flush leaves nothing waiting. -/
theorem flushed (hw : Kept n calls w) {call : Call α} (hrecord : call.record? = none) :
    Kept n (calls ++ [call]) (w.next call) := by
  have hrecords : records (calls ++ [call]) = records calls := by
    simp [records, Call.writes?, hrecord]
  have hcount : (calls ++ [call]).countP Call.isFlush = calls.countP Call.isFlush + 1 := by
    simp [isFlush_eq, hrecord]
  rw [next_of_flush w hrecord]
  constructor
  case flushEvery_eq => exact hw.flushEvery_eq
  case interval_off => exact hw.interval_off
  case written_eq => exact hrecords ▸ hw.written_eq
  case text_eq => exact hrecords ▸ hw.text_eq
  case unflushed_eq => rfl
  case pending_lt => exact id
  case explicit_only =>
    intro hn
    rw [hcount, ← hw.explicit_only hn]
    rfl

/-- A call that fails is as if it had not been made. -/
theorem failed (hw : Kept n calls w) {call : Call α} {f : Fault}
    (hrecord : call.record? = some (.error f)) : Kept n (calls ++ [call]) (w.next call) := by
  have hrecords : records (calls ++ [call]) = records calls := by
    simp [records, Call.writes?, hrecord, Except.toOption]
  have hcount : (calls ++ [call]).countP Call.isFlush = calls.countP Call.isFlush := by
    simp [isFlush_eq, hrecord]
  rw [next_of_error w hrecord]
  constructor
  case flushEvery_eq => exact hw.flushEvery_eq
  case interval_off => exact hw.interval_off
  case written_eq => exact hrecords ▸ hw.written_eq
  case text_eq => exact hrecords ▸ hw.text_eq
  case unflushed_eq => exact hw.unflushed_eq
  case pending_lt => exact hw.pending_lt
  case explicit_only => exact hcount ▸ hw.explicit_only

theorem recorded (hw : Kept n calls w) {call : Call α} {record : Value}
    (hrecord : call.record? = some (.ok record)) : Kept n (calls ++ [call]) (w.next call) := by
  have hrecords : records (calls ++ [call]) = records calls ++ [record] := by
    simp [records, Call.writes?, hrecord, Except.toOption]
  have hcount : (calls ++ [call]).countP Call.isFlush = calls.countP Call.isFlush := by
    simp [isFlush_eq, hrecord]
  have hwritten : w.log.written + 1 = (records (calls ++ [call])).length := by
    rw [hrecords, List.length_append, List.length_singleton, hw.written_eq]
  have htext : w.log.text ++ lineOf record =
      String.join ((records (calls ++ [call])).map lineOf) := by
    rw [hrecords, List.map_append, String.join_append, hw.text_eq]
    simp [String.join]
  rw [hw.next_of_record hrecord]
  split
  case isTrue hdue =>
    exact ⟨hw.flushEvery_eq, hw.interval_off, hwritten, htext, rfl, id,
      fun hn => absurd hdue.1 hn.not_gt⟩
  case isFalse hdue =>
    refine ⟨hw.flushEvery_eq, hw.interval_off, hwritten, htext, rfl, fun hpos => ?_,
      hcount ▸ hw.explicit_only⟩
    have hlt := hw.pending_lt hpos
    have hne : n ≠ w.pending + 1 := fun heq => hdue ⟨hpos, heq⟩
    push_cast
    omega

/-- What one call preserves. -/
theorem next (hw : Kept n calls w) (call : Call α) : Kept n (calls ++ [call]) (w.next call) := by
  rcases hrecord : call.record? with _ | (f | record)
  case none => exact hw.flushed hrecord
  case some.error => exact hw.failed hrecord
  case some.ok => exact hw.recorded hrecord

end Kept

theorem kept_watch (n : Int) {interval : Float} (start : Float) (hoff : ¬0.0 < interval)
    (calls : List (Call α)) : Kept n calls (watch (PoseLog.new n interval start) calls) := by
  induction calls using List.reverseRecOn with
  | nil => exact kept_new n start hoff
  | append_singleton calls call ih =>
      rw [watch_snoc]
      exact ih.next call

/-! ## The books -/

/-- What one more call does to a log of which so many records wait. -/
structure Moves (n : Int) (w : Watched) (call : Call α) : Prop where
  /-- A publication returns if there is a record to write. -/
  returns_iff : call.isFlush = false → ((∃ l, w.log.perform call = .ok l) ↔ call.writes?.isSome)
  tells_iff : ∀ r, call.writes? = some r ↔ call.Tells r
  failed : ∀ f, w.log.perform call = .error f → w.next call = w
  /-- A call that is no flush flushes the log when its record makes up the number, and only then. -/
  flushes_eq : call.isFlush = false →
    (w.next call).log.flushes =
      w.log.flushes + if call.writes?.isSome ∧ 0 < n ∧ w.pending + 1 = n then 1 else 0
  asked : call.isFlush = true → w.next call = ⟨w.log.flush call.time, 0⟩

/-- The counts and the text of a log that is flushed by count alone. -/
structure Books (n : Int) (calls : List (Call α)) (w : Watched) : Prop where
  written_eq : w.log.written = (records calls).length
  unflushed_eq : w.log.unflushed = w.pending
  pending_lt : 0 < n → w.pending < n
  explicit_only : n ≤ 0 → w.log.flushes = calls.countP Call.isFlush
  text_eq : w.log.text = String.join ((records calls).map lineOf)
  /-- One record is one line. -/
  lines_eq : Text.lines w.log.text = (records calls).map (Json.write Json.compact)
  /-- The lines are read back as the records, one after the other. -/
  read_eq : (Text.lines w.log.text).map Json.read = (records calls).map .ok
  next : ∀ call : Call α, Moves n w call

theorem Kept.moves {n : Int} {calls : List (Call α)} {w : Watched} (hw : Kept n calls w)
    (call : Call α) : Moves n w call := by
  constructor
  case returns_iff =>
    intro hcall
    rw [isFlush_eq] at hcall
    rcases hrecord : call.record? with _ | r
    case none => simp [hrecord] at hcall
    case some =>
      rw [perform_of_record w.log hrecord, Call.writes?, hrecord]
      cases r <;> simp [Except.map, Except.toOption]
  case tells_iff => exact writes?_eq_some_iff call
  case failed =>
    intro f hfails
    exact next_of_error w ((perform_eq_error_iff w.log call f).mp hfails)
  case flushes_eq =>
    intro hcall
    rw [isFlush_eq] at hcall
    rcases hrecord : call.record? with _ | (f | record)
    case none => simp [hrecord] at hcall
    case some.error => simp [next_of_error w hrecord, Call.writes?, hrecord, Except.toOption]
    case some.ok =>
      rw [hw.next_of_record hrecord]
      simp only [Call.writes?, hrecord, Option.bind_some, Except.toOption, Option.isSome_some,
        true_and, eq_comm (a := n)]
      split <;> rfl
  case asked =>
    intro hcall
    rw [isFlush_eq, Option.isNone_iff_eq_none] at hcall
    exact next_of_flush w hcall

/-- No record breaks its line. -/
theorem Kept.lines_eq {n : Int} {calls : List (Call α)} {w : Watched} (hw : Kept n calls w) :
    Text.lines w.log.text = (records calls).map (Json.write Json.compact) := by
  have hlines : (records calls).map lineOf =
      ((records calls).map (Json.write Json.compact)).map (· ++ "\n") := by
    rw [List.map_map]
    rfl
  rw [hw.text_eq, hlines, Text.lines_join]
  intro text htext
  obtain ⟨record, _, rfl⟩ := List.mem_map.mp htext
  exact Json.unbroken_write Json.unbroken_compact record

/-- Whatever is called, and in whatever order, a log that is not flushed by time counts the
publications that returned, keeps fewer records waiting than it is to be flushed after, and holds
one line for each record, from which the record is read back. -/
theorem bookkeeping (n : Int) (interval start : Float) (hoff : ¬0.0 < interval)
    (calls : List (Call α)) : Books n calls (watch (PoseLog.new n interval start) calls) := by
  have hkept := kept_watch n start hoff calls
  have hlines := hkept.lines_eq
  constructor
  case written_eq => exact hkept.written_eq
  case unflushed_eq => exact hkept.unflushed_eq
  case pending_lt => exact hkept.pending_lt
  case explicit_only => exact hkept.explicit_only
  case text_eq => exact hkept.text_eq
  case lines_eq => exact hlines
  case read_eq =>
    -- A record is in the list because a call tells it, and what is told is read back.
    rw [hlines, List.map_map]
    refine List.map_congr_left fun r hr => ?_
    obtain ⟨call, -, hwrites⟩ := List.mem_filterMap.mp hr
    exact read_of_tells ((writes?_eq_some_iff call r).mp hwrites)
  case next => exact hkept.moves

end Watching

/-- A pose at the origin, mirrored or not. -/
def atOrigin (id : String) (mirrored : Bool) : Estimate Float where
  stamp := 0
  frame := "map"
  id := id
  pose := Transform.rigid ⟨⟨1, 0, 0⟩, ⟨0, 1, 0⟩, ⟨0, 0, if mirrored then -1 else 1⟩⟩ Vec3.zero
  covariance := (OriginScene.config 1).covariance
  distance := 0
  scale := 1

/-- Of three publications the second fails, and the third makes up two records. -/
def threeCalls : List (Call Float) :=
  [.publish 1 (atOrigin "a\nb" false), .publish 2 (atOrigin "c" true),
    .publish 3 (atOrigin "d\r\n" false)]

theorem bookkeeping_threeCalls :
    ¬0.0 < (0.0 : Float) ∧
      Books 2 threeCalls (watch (PoseLog.new 2 0.0 0.0) threeCalls) ∧
      (watch (PoseLog.new 2 0.0 0.0) threeCalls).log.written = 2 ∧
      (watch (PoseLog.new 2 0.0 0.0) threeCalls).log.flushes = 1 := by
  have hoff : ¬0.0 < (0.0 : Float) := by decide +kernel
  exact ⟨hoff, bookkeeping 2 0.0 0.0 hoff threeCalls, by decide +kernel, by decide +kernel⟩

end Fiducial.PoseLog
