import Fiducial.Command
import Fiducial.Proofs.FileTrees
import Mathlib.Tactic

/-!
# Events line by line

The lines of a text are those of its line endings, whichever of the three they are, so the text up
to the end of its `n`th line has just the first `n` lines.  An event file is read line by line: up
to the first line that is broken, the events are the objects of the lines that are not blank, and
the fault of a broken line names its number.
-/

namespace Fiducial

namespace Text

/-! ## First lines of a text -/

/-- The characters up to the end of so many lines. -/
def upToLine : Nat → List Char → List Char
  | 0, _ => []
  | _ + 1, [] => []
  | n + 1, '\r' :: '\n' :: r => '\r' :: '\n' :: upToLine n r
  | n + 1, c :: r => c :: upToLine (if c = '\n' ∨ c = '\r' then n else n + 1) r

/-- The beginning of a text with so many of its lines. -/
def firstLines (n : Nat) (s : String) : String := String.ofList (upToLine n s.toList)

theorem normalizeNewlines_cons {c : Char} {cs : List Char}
    (hpair : ∀ r, c = '\r' → cs = '\n' :: r → False) :
    normalizeNewlines (c :: cs) = (if c = '\r' then '\n' else c) :: normalizeNewlines cs := by
  rw [normalizeNewlines]
  exact hpair

theorem upToLine_isPrefix (n : Nat) (cs : List Char) : upToLine n cs <+: cs := by
  fun_induction upToLine n cs with
  | case1 => exact List.nil_prefix
  | case2 => exact List.nil_prefix
  | case3 n r ih => simpa using ih
  | case4 n c r _ ih => simpa using ih

/-- Pieces without an empty last one. -/
def closed (pieces : List (List Char)) : List (List Char) :=
  if pieces.getLast? = some [] then pieces.dropLast else pieces

theorem closed_cons (piece next : List Char) (rest : List (List Char)) :
    closed (piece :: next :: rest) = piece :: closed (next :: rest) := by
  unfold closed
  rw [List.getLast?_cons_cons]
  split <;> rfl

/-- The lines of characters whose line endings are line feeds. -/
def cut (cs : List Char) : List (List Char) := closed ((splitLines cs).1 :: (splitLines cs).2)

theorem lines_eq (s : String) :
    lines s = (cut (normalizeNewlines s.toList)).map String.ofList := rfl

/-- A character in front of the first line. -/
def intoFirst (c : Char) : List (List Char) → List (List Char)
  | [] => [[c]]
  | line :: rest => (c :: line) :: rest

theorem cut_lineFeed (cs : List Char) : cut ('\n' :: cs) = [] :: cut cs :=
  closed_cons _ _ _

theorem cut_cons {c : Char} (hc : c ≠ '\n') (cs : List Char) :
    cut (c :: cs) = intoFirst c (cut cs) := by
  unfold cut
  simp only [splitLines, if_neg hc]
  cases (splitLines cs).2 with
  | nil => cases (splitLines cs).1 <;> rfl
  | cons next rest =>
      rw [closed_cons, closed_cons]
      rfl

theorem take_intoFirst (n : Nat) (c : Char) (ls : List (List Char)) :
    (intoFirst c ls).take (n + 1) = intoFirst c (ls.take (n + 1)) := by
  cases ls with
  | nil => simp [intoFirst]
  | cons line rest => rfl

theorem cut_upToLine (n : Nat) (cs : List Char) :
    cut (normalizeNewlines (upToLine n cs)) = (cut (normalizeNewlines cs)).take n := by
  fun_induction upToLine n cs with
  | case1 => rfl
  | case2 => rfl
  | case3 n r ih =>
      simp only [normalizeNewlines]
      rw [cut_lineFeed, cut_lineFeed, List.take_succ_cons, ih]
  | case4 n c r hpair ih =>
      -- A carriage return that is not followed by a line feed is not in the shorter text either.
      have hshorter : ∀ r', c = '\r' →
          upToLine (if c = '\n' ∨ c = '\r' then n else n + 1) r = '\n' :: r' → False := by
        intro r' hc hr'
        obtain ⟨rest, hrest⟩ := upToLine_isPrefix (if c = '\n' ∨ c = '\r' then n else n + 1) r
        rw [hr'] at hrest
        exact hpair _ hc hrest.symm
      rw [normalizeNewlines_cons hpair, normalizeNewlines_cons hshorter]
      by_cases hend : c = '\n' ∨ c = '\r'
      · have hfeed : (if c = '\r' then '\n' else c) = '\n' := by
          rcases hend with rfl | rfl <;> rfl
        rw [if_pos hend] at ih ⊢
        rw [hfeed, cut_lineFeed, cut_lineFeed, List.take_succ_cons, ih]
      · have hordinary : (if c = '\r' then '\n' else c) = c := if_neg fun hc => hend (.inr hc)
        rw [if_neg hend] at ih ⊢
        rw [hordinary, cut_cons fun hc => hend (.inl hc), cut_cons fun hc => hend (.inl hc), ih,
          take_intoFirst]

/-- The beginning of a text has the first lines of it. -/
theorem lines_firstLines (n : Nat) (s : String) : lines (firstLines n s) = (lines s).take n := by
  rw [lines_eq, lines_eq, firstLines, String.toList_ofList, cut_upToLine, List.map_take]

theorem decode?_toUTF8 (s : String) : decode? s.toUTF8 = some s := dif_pos s.isValidUTF8

theorem decode?_empty : decode? ByteArray.empty = some "" := decode?_toUTF8 ""

end Text

namespace Event

/-! ## Lines of an event file -/

/-- The line is blank or an object. -/
def Whole (line : String) : Prop :=
  Text.isBlank line = true ∨ ∃ es, Json.read (Text.trim line) = .ok (.map es)

/-- If the line is no JSON, it is found to be malformed, and is not refused for its size. -/
def Judged (line : String) : Prop :=
  ∀ trouble, Json.read (Text.trim line) = .error trouble → trouble = .malformed

theorem whole_iff (line : String) :
    Whole line ↔ Text.isBlank line = true ∨ (ofLine "" 0 line).isOk = true := by
  unfold Whole
  refine or_congr_right ?_
  unfold ofLine
  split <;> simp_all [Except.isOk, Except.toBool]

instance (line : String) : Decidable (Whole line) := decidable_of_iff _ (whole_iff line).symm

instance (line : String) : Decidable (Judged line) :=
  match hread : Json.read (Text.trim line) with
  | .ok _ => .isTrue (by simp [Judged, hread])
  | .error trouble => decidable_of_iff (trouble = .malformed) (by simp [Judged, hread])

/-- What the lines hold that are not blank. -/
def objects (lines : List String) : List Value :=
  (lines.filter fun line => !Text.isBlank line).filterMap fun line =>
    (Json.read (Text.trim line)).toOption

/-- The fault is one at run time that names a line of a file. -/
structure Names (path : String) (number : Nat) (f : Fault) : Prop where
  runtime : f.kind = .runtime
  message : ∃ reason, f.message = path ++ ":" ++ digitText number ++ ": " ++ reason

theorem Names.isReplayFault {path : String} {number : Nat} {f : Fault} (hf : Names path number f) :
    Command.isReplayFault f = true := by
  simp [Command.isReplayFault, hf.runtime, Fault.Kind.isRuntime]

theorem ofLine_broken {line : String} (hbroken : ¬ Whole line) (hjudged : Judged line)
    (path : String) (number : Nat) :
    ∃ f, ofLine path number line = .error f ∧ Names path number f := by
  unfold ofLine
  split
  next es hread => exact absurd (.inr ⟨es, hread⟩) hbroken
  next => exact ⟨_, rfl, rfl, "事件必须是对象（dict）", by rw [String.append_assoc]; rfl⟩
  next => exact ⟨_, rfl, rfl, "非法 JSON", by rw [String.append_assoc]; rfl⟩
  next trouble hnot hread => exact absurd (hjudged trouble hread) hnot

/-- A line that is whole hands on its object, if it has one. -/
theorem ofLines_cons {line : String} (hwhole : Whole line) (path : String) (number : Nat)
    (last : Option Fault) (rest : List String) :
    ofLines path number last (line :: rest) =
      ⟨objects [line] ++ (ofLines path (number + 1) last rest).events,
        (ofLines path (number + 1) last rest).ending⟩ := by
  conv_lhs => rw [ofLines]
  split
  next hblank => simp [objects, hblank]
  next hblank =>
    obtain ⟨es, hread⟩ := hwhole.resolve_left hblank
    have hline : ofLine path number line = .ok (.map es) := by simp only [ofLine, hread]
    rw [hline]
    simp [objects, hblank, hread, Except.toOption]

theorem objects_cons (line : String) (lines : List String) :
    objects (line :: lines) = objects [line] ++ objects lines := by
  rw [← List.singleton_append]
  simp only [objects, List.filter_append, List.filterMap_append]

/-- Each line that is not blank has one object, and there are no others. -/
def Lists (lines : List String) (events : List Value) : Prop :=
  List.Forall₂
    (fun line event => ∃ es, Json.read (Text.trim line) = .ok (.map es) ∧ event = .map es)
    (lines.filter fun line => !Text.isBlank line) events

theorem lists_objects {lines : List String} (hlines : ∀ line ∈ lines, Whole line) :
    Lists lines (objects lines) := by
  unfold Lists objects
  induction lines with
  | nil => exact .nil
  | cons line lines ih =>
      have hrest := ih fun l hl => hlines l (List.mem_cons_of_mem _ hl)
      rcases hlines line List.mem_cons_self with hblank | ⟨es, hread⟩
      · rw [List.filter_cons_of_neg (by simp [hblank])]
        exact hrest
      · by_cases hblank : Text.isBlank line = true
        · rw [List.filter_cons_of_neg (by simp [hblank])]
          exact hrest
        · rw [List.filter_cons_of_pos (by simp [hblank])]
          simp only [List.filterMap_cons, hread, Except.toOption]
          exact .cons ⟨es, hread, rfl⟩ hrest

/-- Whole lines hand on their objects, and reading goes on after them. -/
theorem ofLines_append {before : List String} (hbefore : ∀ line ∈ before, Whole line)
    (path : String) (number : Nat) (last : Option Fault) (rest : List String) :
    ofLines path number last (before ++ rest) =
      ⟨objects before ++ (ofLines path (number + before.length) last rest).events,
        (ofLines path (number + before.length) last rest).ending⟩ := by
  induction before generalizing number with
  | nil => rfl
  | cons line before ih =>
      have hline := hbefore line List.mem_cons_self
      have hrest := ih (fun l hl => hbefore l (List.mem_cons_of_mem _ hl)) (number + 1)
      have hnumber : number + 1 + before.length = number + (line :: before).length := by
        rw [List.length_cons]
        omega
      rw [List.cons_append, ofLines_cons hline, hrest, hnumber, objects_cons line before,
        List.append_assoc]

theorem ofLines_whole {lines : List String} (hlines : ∀ line ∈ lines, Whole line)
    (path : String) (number : Nat) (last : Option Fault) :
    ofLines path number last lines = ⟨objects lines, last⟩ := by
  simpa [ofLines] using ofLines_append hlines path number last []

/-- The first line that is broken ends the events, and its number is named. -/
theorem ofLines_broken {before : List String} {line : String}
    (hbefore : ∀ line ∈ before, Whole line) (hbroken : ¬ Whole line) (hjudged : Judged line)
    (path : String) (number : Nat) (last : Option Fault) (after : List String) :
    ∃ f, ofLines path number last (before ++ line :: after) = ⟨objects before, some f⟩ ∧
      Names path (number + before.length) f := by
  have hblank : Text.isBlank line ≠ true := fun hblank => hbroken (.inl hblank)
  obtain ⟨f, hline, hnames⟩ := ofLine_broken hbroken hjudged path (number + before.length)
  refine ⟨f, ?_, hnames⟩
  rw [ofLines_append hbefore]
  unfold ofLines
  rw [if_neg hblank, hline]
  simp

theorem load_of_text {t : FileTree} {p : Path} {data : ByteArray} {s : String}
    (hfile : t.file? p = some data) (hdecode : Text.decode? data = some s) (text : String) :
    load t p text = ofLines text 1 none (Text.lines s) := by
  have hnode := FileTree.node?_of_file? hfile
  simp [load, FileTree.exists?, FileTree.read, hnode, ofContent, Text.readable, hdecode]

end Event
end Fiducial
