import Fiducial.Proofs.EventLines
import Fiducial.Proofs.JsonTexts
import Fiducial.Proofs.TrimmedText
import Fiducial.Proofs.WrittenLines
import Fiducial.Sample.Files

/-!
# The events of the sample read back

Each event is written as an object on a line of its own, and a JSON object begins and ends with a
brace, so no line is blank and trimming takes nothing from it.  So the events that are read from the
file of a sample are those that were made, down to the last bit of their numbers.
-/

namespace Fiducial

theorem Text.trim_enclosed {s : String} {c d : Char} {cs : List Char}
    (hs : s.toList = c :: (cs ++ [d])) (hc : isBlankChar c = false) (hd : isBlankChar d = false) :
    trim s = s := by
  have hstart : trimStart s.toList = s.toList := by
    rw [hs, trimStart, List.dropWhile_cons_of_neg (by simp [hc])]
  have hend : trimEnd s.toList = s.toList := by
    have hlast : s.toList.reverse = d :: (c :: cs).reverse := by simp [hs]
    rw [trimEnd, hlast, trimStart, List.dropWhile_cons_of_neg (by simp [hd]), ← hlast,
      List.reverse_reverse]
  rw [trim, hstart, hend, String.ofList_toList]

namespace Event

/-- An object that is read back as it is written. -/
structure Written (e : Value) : Prop where
  object : ∃ es, e = .map es
  plain : Json.Plain e
  shallow : Json.depth e ≤ Json.maxDepth

variable {e : Value} {events : List Value}

theorem Written.toList_write (he : Written e) :
    ∃ cs, (Json.write Json.spaced e).toList = '\x7b' :: (cs ++ ['\x7d']) := by
  obtain ⟨es, rfl⟩ := he.object
  exact ⟨(Json.spaced.comma.intercalate (Json.writeEntries Json.spaced es)).toList,
    by simp [Json.write]⟩

theorem Written.isBlank_write (he : Written e) :
    Text.isBlank (Json.write Json.spaced e) = false := by
  obtain ⟨cs, hchars⟩ := he.toList_write
  rw [Text.isBlank, hchars]
  rfl

theorem Written.read_trim (he : Written e) :
    Json.read (Text.trim (Json.write Json.spaced e)) = .ok e := by
  obtain ⟨cs, hchars⟩ := he.toList_write
  rw [Text.trim_enclosed hchars (by decide) (by decide)]
  exact Json.read_write Json.separates_spaced he.plain he.shallow

theorem Written.whole (he : Written e) : Whole (Json.write Json.spaced e) := by
  obtain ⟨es, rfl⟩ := he.object
  exact .inr ⟨es, he.read_trim⟩

theorem objects_write (hevents : ∀ e ∈ events, Written e) :
    objects (events.map (Json.write Json.spaced)) = events := by
  induction events with
  | nil => rfl
  | cons e events ih =>
      obtain ⟨he, hevents⟩ := List.forall_mem_cons.mp hevents
      rw [List.map_cons, objects_cons, ih hevents]
      simp [objects, he.isBlank_write, he.read_trim, Except.toOption]

/-- Events that are written are read back. -/
theorem load_eventLines (hevents : ∀ e ∈ events, Written e) {t : FileTree} {p : Path}
    (hfile : t.node? p = some (.file (Sample.eventLines events).toUTF8)) (text : String) :
    load t p text = ⟨events, none⟩ := by
  have hlines : Text.lines (Sample.eventLines events) = events.map (Json.write Json.spaced) := by
    have htexts : events.map (fun e => Json.write Json.spaced e ++ "\n") =
        (events.map (Json.write Json.spaced)).map (· ++ "\n") := by
      rw [List.map_map]
      rfl
    rw [Sample.eventLines, htexts, Text.lines_join]
    intro line hline
    obtain ⟨e, -, rfl⟩ := List.mem_map.mp hline
    exact Json.unbroken_write Json.unbroken_spaced e
  have hwhole : ∀ line ∈ events.map (Json.write Json.spaced), Whole line := by
    intro line hline
    obtain ⟨e, he, rfl⟩ := List.mem_map.mp hline
    exact (hevents e he).whole
  rw [load_of_text (FileTree.file?_of_node? hfile) (Text.decode?_toUTF8 _), hlines,
    ofLines_whole hwhole, objects_write hevents]

end Event

namespace Sample

theorem plain_vector (v : Vec3 Float) : Json.Plain (vector v) := by
  simp [vector, Json.Plain, Json.plainItems_iff]

theorem depth_vector (v : Vec3 Float) : Json.depth (vector v) = 1 := by
  simp [vector, Vec3.toList, Json.depth, Json.depthOfItems]

theorem plain_entry (s : Sight Float) : Json.Plain s.entry := by
  simp [Sight.entry, fields, Json.Plain, Json.PlainEntries, plain_vector]

theorem depth_entry (s : Sight Float) : Json.depth s.entry = 2 := by
  simp [Sight.entry, fields, Json.depth, Json.depthOfEntries, depth_vector]

theorem written_referenceEvent (c : Cycle Float) : Event.Written (referenceEvent c) where
  object := ⟨_, rfl⟩
  plain := by
    simp [referenceEvent, fields, stampOf, Json.Plain, Json.PlainEntries, Json.PlainItems,
      plain_vector]
  shallow := by
    simp [referenceEvent, fields, stampOf, Json.depth, Json.depthOfEntries, Json.depthOfItems,
      depth_vector, Json.maxDepth]

theorem written_detectionsEvent (c : Cycle Float) : Event.Written (detectionsEvent c) where
  object := ⟨_, rfl⟩
  plain := by
    simp [detectionsEvent, fields, stampOf, Json.Plain, Json.PlainEntries, Json.plainItems_iff,
      plain_entry]
  shallow := by
    have hsights : Json.depthOfItems (c.sights.map Sight.entry) ≤ 2 := by
      simp [Json.depthOfItems_le_iff, depth_entry]
    simp [detectionsEvent, fields, stampOf, Json.depth, Json.depthOfEntries, Json.maxDepth]
    omega

theorem written_eventsOf (d : Drive Float) (cycles : Nat) :
    ∀ e ∈ eventsOf d cycles, Event.Written e := by
  intro e he
  obtain ⟨k, -, hmem⟩ := List.mem_flatMap.mp he
  rcases List.mem_cons.mp hmem with rfl | hmem
  · exact written_referenceEvent (d.cycle k)
  · rw [List.mem_singleton.mp hmem]
    exact written_detectionsEvent (d.cycle k)

end Sample
end Fiducial
