import Fiducial.Json.Writer
import Fiducial.Proofs.EventLines
import Fiducial.Proofs.TrimmedText

/-!
# Values on one line

In the JSON text of a value there is no line ending: between quotes every control character is
written as an escape, and numbers and marks have none.  So texts of values that are written one
after the other, each closed by a line feed, are read back as so many lines.
-/

namespace Fiducial

namespace Text

/-! ## Text without line endings -/

/-- No character of the text ends a line. -/
def Unbroken (cs : List Char) : Prop := ∀ c ∈ cs, c ≠ '\n' ∧ c ≠ '\r'

instance (cs : List Char) : Decidable (Unbroken cs) := List.decidableBAll _ cs

namespace Unbroken

variable {cs ds : List Char}

theorem append (hcs : Unbroken cs) (hds : Unbroken ds) : Unbroken (cs ++ ds) :=
  List.forall_mem_append.mpr ⟨hcs, hds⟩

theorem intercalate {pieces : List (List Char)} (hcs : Unbroken cs)
    (hall : ∀ piece ∈ pieces, Unbroken piece) : Unbroken (cs.intercalate pieces) := by
  induction pieces with
  | nil => exact List.forall_mem_nil _
  | cons piece pieces ih =>
      have hpiece := hall piece List.mem_cons_self
      have hrest := fun other hother => hall other (List.mem_cons_of_mem piece hother)
      cases pieces with
      | nil => simpa using hpiece
      | cons next pieces =>
          rw [List.intercalate_cons_cons]
          exact (hpiece.append hcs).append (ih hrest)

end Unbroken

/-- Line endings are blanks. -/
theorem unbroken_of_noBlanks {cs : List Char} (hcs : NoBlanks cs) : Unbroken cs := by
  intro c hc
  have hblank := hcs c hc
  constructor
  · rintro rfl
    exact absurd hblank (by decide)
  · rintro rfl
    exact absurd hblank (by decide)

/-! ## Lines of lines -/

theorem normalizeNewlines_of_noReturn {cs : List Char} (hcs : ∀ c ∈ cs, c ≠ '\r') :
    normalizeNewlines cs = cs := by
  induction cs with
  | nil => rfl
  | cons c cs ih =>
      have hc : c ≠ '\r' := hcs c List.mem_cons_self
      rw [normalizeNewlines_cons fun _ hreturn _ => hc hreturn, if_neg hc,
        ih fun d hd => hcs d (List.mem_cons_of_mem c hd)]

theorem cut_append_lineFeed {cs : List Char} (hcs : Unbroken cs) (rest : List Char) :
    cut (cs ++ '\n' :: rest) = cs :: cut rest := by
  induction cs with
  | nil => exact cut_lineFeed rest
  | cons c cs ih =>
      have hc : c ≠ '\n' := (hcs c List.mem_cons_self).1
      rw [List.cons_append, cut_cons hc, ih fun d hd => hcs d (List.mem_cons_of_mem c hd)]
      rfl

/-- Texts without line endings, each closed by a line feed, are the lines of what they make up. -/
theorem lines_join {texts : List String} (hall : ∀ text ∈ texts, Unbroken text.toList) :
    lines (String.join (texts.map (· ++ "\n"))) = texts := by
  have hlist : (String.join (texts.map (· ++ "\n"))).toList =
      (texts.map String.toList).flatMap (· ++ ['\n']) := by
    simp [String.toList_join, List.flatMap_map]
  have hreturn : ∀ c ∈ (texts.map String.toList).flatMap (· ++ ['\n']), c ≠ '\r' := by
    intro c hc
    obtain ⟨cs, hcs, hmem⟩ := List.mem_flatMap.mp hc
    obtain ⟨text, htext, rfl⟩ := List.mem_map.mp hcs
    rcases List.mem_append.mp hmem with hin | hend
    · exact (hall text htext c hin).2
    · rw [List.mem_singleton.mp hend]
      decide
  rw [lines_eq, hlist, normalizeNewlines_of_noReturn hreturn]
  clear hlist hreturn
  induction texts with
  | nil => rfl
  | cons text texts ih =>
      rw [List.map_cons, List.flatMap_cons, List.append_assoc, List.singleton_append,
        cut_append_lineFeed (hall text List.mem_cons_self), List.map_cons, String.ofList_toList,
        ih fun other hother => hall other (List.mem_cons_of_mem text hother)]

end Text

/-! ## JSON texts -/

namespace Json

open Text

theorem unbroken_escapeChar (c : Char) : Unbroken (escapeChar c).toList := by
  have hcontrol : ∀ n < 0x20, Unbroken ("\\u" ++ hexDigits 4 n).toList := by decide +kernel
  unfold escapeChar
  split
  · decide
  split
  · decide
  split
  · decide
  next hfeed =>
  split
  · decide
  next hreturn =>
  split
  · decide
  split
  · decide
  split
  · decide
  split
  next hlow => exact hcontrol c.toNat hlow
  next =>
    intro d hd
    rw [String.toList_singleton, List.mem_singleton] at hd
    exact hd ▸ ⟨hfeed, hreturn⟩

theorem unbroken_quoted (s : String) : Unbroken (quoted s).toList := by
  unfold quoted
  rw [String.toList_append, String.toList_append, String.toList_join, List.flatMap_map]
  refine (Unbroken.append (by decide) ?_).append (by decide)
  intro c hc
  obtain ⟨d, _, hmem⟩ := List.mem_flatMap.mp hc
  exact unbroken_escapeChar d c hmem

theorem unbroken_numberText (x : Float) : Unbroken (numberText x).toList := by
  unfold numberText
  split
  · decide
  · split <;> decide
  · exact unbroken_of_noBlanks (noBlanks_shortestText x)

/-- What stands between members, and between keys and values, ends no line. -/
structure Style.Unbroken (s : Style) : Prop where
  comma : Text.Unbroken s.comma.toList
  colon : Text.Unbroken s.colon.toList

theorem unbroken_compact : compact.Unbroken := ⟨by decide, by decide⟩

theorem unbroken_spaced : spaced.Unbroken := ⟨by decide, by decide⟩

theorem unbroken_between {opening closing : String} {s : Style} (hs : s.Unbroken)
    (hopening : Text.Unbroken opening.toList) (hclosing : Text.Unbroken closing.toList)
    {members : List String} (hall : ∀ member ∈ members, Text.Unbroken member.toList) :
    Text.Unbroken (opening ++ s.comma.intercalate members ++ closing).toList := by
  rw [String.toList_append, String.toList_append, String.toList_intercalate]
  refine (hopening.append (Unbroken.intercalate hs.comma ?_)).append hclosing
  intro piece hpiece
  obtain ⟨member, hmember, rfl⟩ := List.mem_map.mp hpiece
  exact hall member hmember

mutual

theorem unbroken_write {s : Style} (hs : s.Unbroken) : ∀ v, Text.Unbroken (write s v).toList
  | .null => (by decide : Text.Unbroken "null".toList)
  | .bool true => (by decide : Text.Unbroken "true".toList)
  | .bool false => (by decide : Text.Unbroken "false".toList)
  | .int n => unbroken_of_noBlanks (noBlanks_intText n)
  | .float x => unbroken_numberText x
  | .str t => unbroken_quoted t
  | .list xs => unbroken_between hs (by decide) (by decide) (unbroken_writeItems hs xs)
  | .map es => unbroken_between hs (by decide) (by decide) (unbroken_writeEntries hs es)
  | .bytes _ | .date .. | .moment _ | .set _ | .again _ => unbroken_quoted _

theorem unbroken_writeItems {s : Style} (hs : s.Unbroken) :
    ∀ xs, ∀ text ∈ writeItems s xs, Text.Unbroken text.toList
  | [] => List.forall_mem_nil _
  | x :: xs => List.forall_mem_cons.mpr ⟨unbroken_write hs x, unbroken_writeItems hs xs⟩

theorem unbroken_writeEntries {s : Style} (hs : s.Unbroken) :
    ∀ es, ∀ text ∈ writeEntries s es, Text.Unbroken text.toList
  | [] => List.forall_mem_nil _
  | (k, v) :: es => by
      refine List.forall_mem_cons.mpr ⟨?_, unbroken_writeEntries hs es⟩
      rw [String.toList_append, String.toList_append]
      exact ((unbroken_quoted k.text).append hs.colon).append (unbroken_write hs v)

end

end Json
end Fiducial
