import Fiducial.Value.Name
import Fiducial.Text.Blank
import Mathlib.Data.List.DropRight
import Mathlib.Tactic

/-!
# Trimmed text

Trimming a text again changes nothing, and trimming changes a text exactly if there are blanks at
one of its ends.  The texts of numbers and of truth values have no blanks at all.
-/

namespace Fiducial
namespace Text

/-! ## Trimming -/

/-- Nothing at the start of what begins without a blank is lost at its end. -/
theorem trimStart_trimEnd {cs : List Char} (hstart : trimStart cs = cs) :
    trimStart (trimEnd cs) = trimEnd cs := by
  unfold trimStart at hstart ⊢
  rw [List.dropWhile_eq_self_iff] at hstart ⊢
  intro hlength
  have hkept : trimEnd cs <+: cs := List.rdropWhile_prefix isBlankChar cs
  have hpos : 0 < cs.length := lt_of_lt_of_le hlength hkept.length_le
  rw [hkept.getElem hlength]
  exact hstart hpos

theorem trim_trim (s : String) : trim (trim s) = trim s := by
  have hstart : trimStart (trimStart s.toList) = trimStart s.toList :=
    List.dropWhile_idempotent _ _
  have hend (cs : List Char) : trimEnd (trimEnd cs) = trimEnd cs :=
    List.rdropWhile_idempotent _ _
  unfold trim
  rw [String.toList_ofList, trimStart_trimEnd hstart, hend]

/-- A character that is no blank is not trimmed. -/
theorem mem_trimStart {cs : List Char} {c : Char} (hmem : c ∈ cs) (hc : isBlankChar c = false) :
    c ∈ trimStart cs := by
  rw [← List.takeWhile_append_dropWhile (p := isBlankChar) (l := cs)] at hmem
  rcases List.mem_append.mp hmem with hblank | hkept
  · rw [List.mem_takeWhile_imp hblank] at hc
    cases hc
  · exact hkept

theorem trim_ne_empty {s : String} (hs : isBlank s = false) : trim s ≠ "" := by
  obtain ⟨c, hmem, hc⟩ := List.all_eq_false.mp hs
  have hkept : c ∈ trimEnd (trimStart s.toList) := by
    have hreverse := List.mem_reverse.mpr (mem_trimStart hmem (Bool.eq_false_of_not_eq_true hc))
    exact List.mem_reverse.mpr (mem_trimStart hreverse (Bool.eq_false_of_not_eq_true hc))
  intro hempty
  have hnil : trimEnd (trimStart s.toList) = [] := by
    simpa [trim] using congrArg String.toList hempty
  rw [hnil] at hkept
  cases hkept

/-! ## Text without blanks -/

/-- No character of the text is a blank. -/
def NoBlanks (cs : List Char) : Prop := ∀ c ∈ cs, isBlankChar c = false

instance (cs : List Char) : Decidable (NoBlanks cs) :=
  List.decidableBAll _ cs

theorem NoBlanks.append {cs ds : List Char} (hcs : NoBlanks cs) (hds : NoBlanks ds) :
    NoBlanks (cs ++ ds) := List.forall_mem_append.mpr ⟨hcs, hds⟩

theorem NoBlanks.take {cs : List Char} (hcs : NoBlanks cs) (n : Nat) : NoBlanks (cs.take n) :=
  fun c hc => hcs c (List.mem_of_mem_take hc)

theorem NoBlanks.drop {cs : List Char} (hcs : NoBlanks cs) (n : Nat) : NoBlanks (cs.drop n) :=
  fun c hc => hcs c (List.mem_of_mem_drop hc)

theorem NoBlanks.trimStart_eq {cs : List Char} (hcs : NoBlanks cs) : trimStart cs = cs := by
  unfold trimStart
  rw [List.dropWhile_eq_self_iff]
  intro hpos
  simp [hcs _ (List.getElem_mem hpos)]

theorem trim_eq_self {s : String} (hs : NoBlanks s.toList) : trim s = s := by
  have hreverse : NoBlanks s.toList.reverse := fun c hc => hs c (List.mem_reverse.mp hc)
  unfold trim trimEnd
  rw [hs.trimStart_eq, hreverse.trimStart_eq, List.reverse_reverse, String.ofList_toList]

theorem isBlankChar_of_isDigit {c : Char} (hc : c.isDigit = true) : isBlankChar c = false := by
  have hlow : 48 ≤ c.toNat := by
    have hval := (Bool.and_eq_true_iff.mp hc).1
    exact of_decide_eq_true hval
  have hhigh : c.toNat ≤ 57 := by
    have hval := (Bool.and_eq_true_iff.mp hc).2
    exact of_decide_eq_true hval
  simp [isBlankChar]
  omega

theorem noBlanks_toDigits (n : Nat) : NoBlanks (Nat.toDigits 10 n) := by
  intro c hc
  exact isBlankChar_of_isDigit (Nat.isDigit_of_mem_toDigits (by decide) (by decide) hc)

theorem noBlanks_zeros (n : Nat) : NoBlanks (List.replicate n '0') := by
  intro c hc
  rw [List.eq_of_mem_replicate hc]
  decide

end Text

/-! ## Texts of numbers -/

open Text

theorem noBlanks_digitText (n : Nat) : NoBlanks (digitText n).toList := by
  rw [digitText, String.toList_ofList]
  exact noBlanks_toDigits n

theorem noBlanks_paddedText (width n : Nat) : NoBlanks (paddedText width n).toList := by
  simp only [paddedText, String.toList_ofList]
  exact (noBlanks_zeros _).append (noBlanks_toDigits n)

theorem noBlanks_intText (n : Int) : NoBlanks (intText n).toList := by
  unfold intText
  split
  · rw [String.toList_append]
    exact NoBlanks.append (by decide) (noBlanks_digitText _)
  · exact noBlanks_digitText _

namespace Decimal

theorem noBlanks_positional (d : Decimal) : NoBlanks d.positional.toList := by
  have hdigits := noBlanks_toDigits d.digits
  unfold positional
  dsimp only
  split
  · rw [String.toList_append, String.toList_ofList]
    exact (hdigits.append (noBlanks_zeros _)).append (by decide)
  · split
    · simp only [String.toList_append, String.toList_ofList]
      exact ((hdigits.take _).append (by decide)).append (hdigits.drop _)
    · simp only [String.toList_append, String.toList_ofList]
      exact NoBlanks.append (by decide) ((noBlanks_zeros _).append hdigits)

theorem noBlanks_scientific (d : Decimal) : NoBlanks d.scientific.toList := by
  have hdigits := noBlanks_toDigits d.digits
  unfold scientific
  simp only [String.toList_append]
  refine ((NoBlanks.append ?_ (by decide)).append ?_).append (noBlanks_paddedText _ _)
  · split
    · rw [String.toList_ofList]
      exact hdigits.take 1
    · simp only [String.toList_append, String.toList_ofList]
      exact ((hdigits.take 1).append (by decide)).append (hdigits.drop 1)
  · split <;> decide

theorem noBlanks_text (d : Decimal) : NoBlanks d.text.toList := by
  unfold text
  dsimp only
  split
  · decide
  · split
    · exact noBlanks_positional d
    · exact noBlanks_scientific d

end Decimal

theorem noBlanks_shortestText (x : Float) : NoBlanks (Binary.shortestText x).toList := by
  unfold Binary.shortestText
  split
  · decide
  · split <;> decide
  · rw [String.toList_append]
    exact NoBlanks.append (by split <;> decide) (Decimal.noBlanks_text _)

/-! ## Texts of values -/

namespace Value

/-- The kinds of which an id can be: text, a number or a truth value. -/
inductive IsScalar : Value → Prop
  | str (s : String) : IsScalar (.str s)
  | int (n : Int) : IsScalar (.int n)
  | float (x : Float) : IsScalar (.float x)
  | bool (b : Bool) : IsScalar (.bool b)

/-- Only text can have blanks at its ends. -/
theorem trim_text {v : Value} (hscalar : v.IsScalar) (htext : ∀ s, v ≠ .str s) :
    Text.trim v.text = v.text := by
  cases hscalar with
  | str s => exact absurd rfl (htext s)
  | int n => exact trim_eq_self (noBlanks_intText n)
  | float x => exact trim_eq_self (noBlanks_shortestText x)
  | bool b => cases b <;> exact trim_eq_self (by decide)

end Value

end Fiducial
