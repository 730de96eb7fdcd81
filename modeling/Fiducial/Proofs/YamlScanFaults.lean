import Fiducial.Proofs.Failures
import Fiducial.Yaml.Token.Scan

/-!
# How YAML texts are refused

A text that is not YAML is refused as malformed.  But an escape can name no character, and a
version can be a number of too many digits, and then the fault is that of the number.  So scanning
fails with one of a few kinds of fault, and one lemma for each part of the scanner says so.
-/

namespace Fiducial.Yaml

/-- The kinds of fault with which a YAML text is refused, here or when its values are read. -/
def refusals : List Fault.Kind :=
  [.malformed, .value, .type, .key, .recursion, .index, .member, .overflow]

def Refused (f : Fault) : Prop := f.kind ∈ refusals

instance (f : Fault) : Decidable (Refused f) := inferInstanceAs (Decidable (f.kind ∈ refusals))

theorem refused_of_kind {f : Fault} (k : Fault.Kind) (hk : k ∈ refusals) (hf : f.kind = k) :
    Refused f := by
  rw [Refused, hf]
  exact hk

theorem badValue_refused (detail : String) : Refused (.badValue detail) :=
  refused_of_kind .value (by decide) rfl

theorem refuse_refused {β : Type} : FailsWith Refused (refuse : Except Fault β) :=
  .error (by decide)

/-! ## Text -/

theorem quotedBreaks_refused (n : Nat) (c : Cursor) (acc : List Char) :
    FailsWith Refused (quotedBreaks n c acc) := by
  induction n generalizing c acc with
  | zero => exact refuse_refused
  | succ n ih =>
      unfold quotedBreaks
      dsimp only
      split
      · exact refuse_refused
      · split
        · split
          · exact ih _ _
          · exact .ok _
        · exact .ok _

/-- An escape can stand for a code point that there is not. -/
theorem quotedEscape_refused (c : Cursor) : FailsWith Refused (quotedEscape c) := by
  unfold quotedEscape
  split
  · exact refuse_refused
  · split
    · exact .ok _
    · dsimp only
      split
      · exact refuse_refused
      · split
        · exact refuse_refused
        · split
          · exact .error (by decide)
          · split
            · exact .error (badValue_refused _)
            · exact .ok _
    · split
      · exact quotedBreaks_refused _ _ _
      · exact refuse_refused

theorem quotedText_refused (double : Bool) (n : Nat) (c : Cursor) (acc : List Char) :
    FailsWith Refused (quotedText double n c acc) := by
  induction n generalizing c acc with
  | zero => exact refuse_refused
  | succ n ih =>
      unfold quotedText
      split
      · exact refuse_refused
      · dsimp only
        split
        · split
          · exact ih _ _
          · exact .ok _
        split
        · exact .ok _
        split
        · split
          next f hescape => exact .error (quotedEscape_refused _ f hescape)
          next => exact ih _ _
        split
        · split
          · exact refuse_refused
          · split
            · split
              next f hbreaks => exact .error (quotedBreaks_refused _ _ _ f hbreaks)
              next => exact ih _ _
            · exact ih _ _
        · split
          · exact ih _ _
          · exact ih _ _

theorem blockHeader_refused (c : Cursor) : FailsWith Refused (blockHeader c) := by
  unfold blockHeader
  dsimp only
  exact .ite refuse_refused (.ok _)

theorem restOfLine_refused (c : Cursor) : FailsWith Refused (restOfLine c) := by
  unfold restOfLine
  dsimp only
  split
  · exact .ok _
  · split
    · exact .ok _
    · exact refuse_refused

theorem blockText_refused (folded : Bool) (parent : Int) (c : Cursor) :
    FailsWith Refused (blockText folded parent c) := by
  unfold blockText
  apply FailsWith.bind (blockHeader_refused c)
  intro header _
  apply FailsWith.bind (restOfLine_refused _)
  intro rest _
  exact .ok _

namespace Scanner

/-! ## Possible keys -/

theorem clearMark_refused (s : Scanner) : FailsWith Refused s.clearMark := by
  unfold clearMark
  split
  · split
    · exact refuse_refused
    · exact .ok _
  · exact .ok _

theorem dropStale_refused (s : Scanner) : FailsWith Refused s.dropStale := by
  unfold dropStale
  split
  · exact refuse_refused
  · exact .ok _

theorem noteMark_refused (s : Scanner) : FailsWith Refused s.noteMark := by
  unfold noteMark
  split
  · apply FailsWith.bind (clearMark_refused s)
    intro s' _
    exact .ok _
  · exact .ok _

/-! ## Directives, anchors and tags -/

theorem number_refused (c : Cursor) : FailsWith Refused (number c) := by
  unfold number
  dsimp only
  split
  · exact refuse_refused
  · split
    · exact .error (badValue_refused _)
    · exact .ok _

theorem tagHandle_refused (c : Cursor) : FailsWith Refused (tagHandle c) := by
  unfold tagHandle
  split
  · exact refuse_refused
  · dsimp only
    split
    · exact .ok _
    · split
      · exact .ok _
      · exact refuse_refused

theorem uriBytes_refused (n : Nat) (c : Cursor) (acc : List UInt8) :
    FailsWith Refused (uriBytes n c acc) := by
  induction n generalizing c acc with
  | zero => exact .ok _
  | succ n ih =>
      unfold uriBytes
      dsimp only
      split
      · split
        · split
          · exact ih _ _
          · exact refuse_refused
        · exact refuse_refused
      · exact .ok _

theorem uriText_refused (n : Nat) (c : Cursor) (acc : List Char) :
    FailsWith Refused (uriText n c acc) := by
  induction n generalizing c acc with
  | zero => exact .ok _
  | succ n ih =>
      unfold uriText
      split
      · split
        · split
          next f hbytes => exact .error (uriBytes_refused _ _ _ f hbytes)
          next =>
            split
            · exact ih _ _
            · exact refuse_refused
        · split
          · exact ih _ _
          · exact .ok _
      · exact .ok _

theorem uri_refused (c : Cursor) : FailsWith Refused (uri c) := by
  unfold uri
  split
  next f htext => exact .error (uriText_refused _ _ _ f htext)
  next => exact refuse_refused
  next => exact .ok _

theorem closeWord_refused (c : Cursor) (t : Token) : FailsWith Refused (closeWord c t) := by
  unfold closeWord
  split
  · exact .ok _
  · exact refuse_refused

theorem directive_refused (c : Cursor) : FailsWith Refused (directive c) := by
  -- what kind of directive it is, the rest of its line is read in the same way
  have hrest (t : Token × Cursor) :
      FailsWith Refused (restOfLine t.2 >>= fun r => Pure.pure (t.1, r.2)) := by
    apply FailsWith.bind (restOfLine_refused t.2)
    intro r _
    exact .pure _
  unfold directive
  dsimp only
  split
  · exact refuse_refused
  · apply FailsWith.bind (closeWord_refused _ _)
    intro word _
    split
    · apply FailsWith.bind (number_refused _)
      intro major _
      split
      · exact refuse_refused
      · apply FailsWith.bind (number_refused _)
        intro minor _
        exact .bind (closeWord_refused _ _) fun t _ => hrest t
    · split
      · apply FailsWith.bind (tagHandle_refused _)
        intro handle _
        split
        · exact refuse_refused
        · apply FailsWith.bind (uri_refused _)
          intro meaning _
          exact .bind (closeWord_refused _ _) fun t _ => hrest t
      · exact hrest _

theorem name_refused (c : Cursor) : FailsWith Refused (name c) := by
  unfold name
  dsimp only
  split
  · exact refuse_refused
  · exact .ok _

theorem tag_refused (c : Cursor) : FailsWith Refused (tag c) := by
  have hnamed (handle : String) (c' : Cursor) : FailsWith Refused
      (uri c' >>= fun suffix => closeWord suffix.2 (.tag (some handle) suffix.1)) := by
    apply FailsWith.bind (uri_refused c')
    intro suffix _
    exact closeWord_refused _ _
  unfold tag
  simp only [pure_bind]
  split
  · apply FailsWith.bind (uri_refused _)
    intro suffix _
    exact .ite (closeWord_refused _ _) refuse_refused
  · split
    · exact closeWord_refused _ _
    · split
      · exact .bind (tagHandle_refused c) fun handle _ => hnamed _ _
      · exact hnamed _ _

/-! ## One token -/

theorem documentMark_refused (s : Scanner) (t : Token) (c : Cursor) :
    FailsWith Refused (s.documentMark t c) := by
  unfold documentMark
  apply FailsWith.bind (clearMark_refused _)
  intro s' _
  exact .pure _

theorem openFlow_refused (s : Scanner) (t : Token) : FailsWith Refused (s.openFlow t) := by
  unfold openFlow
  apply FailsWith.bind (noteMark_refused s)
  intro s' _
  exact .pure _

theorem closeFlow_refused (s : Scanner) (t : Token) : FailsWith Refused (s.closeFlow t) := by
  unfold closeFlow
  apply FailsWith.bind (clearMark_refused s)
  intro s' _
  split
  · exact refuse_refused
  · exact .pure _

theorem comma_refused (s : Scanner) : FailsWith Refused s.comma := by
  unfold comma
  apply FailsWith.bind (clearMark_refused s)
  intro s' _
  exact .pure _

theorem openBlock_refused (s : Scanner) (t : Token) : FailsWith Refused (s.openBlock t) := by
  unfold openBlock
  split
  · exact .ok s
  · split
    · exact refuse_refused
    · split
      · exact .ok _
      · exact .ok s

theorem entry_refused (s : Scanner) : FailsWith Refused s.entry := by
  unfold entry
  apply FailsWith.bind (openBlock_refused s .blockList)
  intro s' _
  apply FailsWith.bind (clearMark_refused s')
  intro s'' _
  exact .pure _

theorem explicitKey_refused (s : Scanner) : FailsWith Refused s.explicitKey := by
  unfold explicitKey
  apply FailsWith.bind (openBlock_refused s .blockMap)
  intro s' _
  apply FailsWith.bind (clearMark_refused s')
  intro s'' _
  exact .pure _

theorem value_refused (s : Scanner) : FailsWith Refused s.value := by
  unfold value
  split
  · exact .pure _
  · apply FailsWith.bind (openBlock_refused s .blockMap)
    intro s' _
    apply FailsWith.bind (clearMark_refused s')
    intro s'' _
    exact .pure _

theorem keyed_refused (s : Scanner) {scan : Cursor → Scanned Token}
    (hscan : ∀ c, FailsWith Refused (scan c)) : FailsWith Refused (s.keyed scan) := by
  unfold keyed
  apply FailsWith.bind (noteMark_refused s)
  intro s' _
  apply FailsWith.bind (hscan _)
  intro token _
  exact .pure _

theorem textToken_refused (plain : Bool) {text : Scanned (List Char)}
    (htext : FailsWith Refused text) : FailsWith Refused (textToken plain text) := by
  unfold textToken
  split
  next => exact .ok _
  next f => exact .error (htext f rfl)

theorem quoted_refused (double : Bool) (c : Cursor) : FailsWith Refused (quoted double c) :=
  textToken_refused false (quotedText_refused double _ _ _)

theorem block_refused (s : Scanner) (folded : Bool) : FailsWith Refused (s.block folded) := by
  unfold block
  apply FailsWith.bind (clearMark_refused _)
  intro s' _
  apply FailsWith.bind (textToken_refused false (blockText_refused _ _ _))
  intro token _
  exact .pure _

theorem plain_refused (s : Scanner) : FailsWith Refused s.plain := by
  unfold plain
  apply FailsWith.bind (noteMark_refused s)
  intro s' _
  exact .pure _

theorem finish_refused (s : Scanner) : FailsWith Refused s.finish := by
  unfold finish
  apply FailsWith.bind (clearMark_refused _)
  intro s' _
  exact .pure _

theorem next_refused (s : Scanner) : FailsWith Refused s.next := by
  unfold next
  apply FailsWith.bind (dropStale_refused _)
  intro s' _
  dsimp only
  split
  · exact finish_refused _
  · apply FailsWith.ite
    · apply FailsWith.bind (clearMark_refused _)
      intro s'' _
      apply FailsWith.bind (directive_refused _)
      intro token _
      exact .pure _
    · apply FailsWith.ite (documentMark_refused _ _ _)
      apply FailsWith.ite (openFlow_refused _ _)
      apply FailsWith.ite (openFlow_refused _ _)
      apply FailsWith.ite (closeFlow_refused _ _)
      apply FailsWith.ite (closeFlow_refused _ _)
      apply FailsWith.ite (comma_refused _)
      apply FailsWith.ite (entry_refused _)
      apply FailsWith.ite (explicitKey_refused _)
      apply FailsWith.ite (value_refused _)
      apply FailsWith.ite (keyed_refused _ fun c => (name_refused c).map _)
      apply FailsWith.ite (keyed_refused _ fun c => (name_refused c).map _)
      apply FailsWith.ite (keyed_refused _ tag_refused)
      apply FailsWith.ite (block_refused _ _)
      apply FailsWith.ite (block_refused _ _)
      apply FailsWith.ite (keyed_refused _ (quoted_refused _))
      apply FailsWith.ite (keyed_refused _ (quoted_refused _))
      exact .ite (plain_refused _) refuse_refused

/-! ## All tokens -/

theorem run_refused (n : Nat) (s : Scanner) : FailsWith Refused (run n s) := by
  induction n generalizing s with
  | zero => exact refuse_refused
  | succ n ih =>
      unfold run
      apply FailsWith.bind (next_refused s)
      intro s' _
      split
      · exact .pure _
      · exact ih s'

end Scanner

theorem tokens_refused (s : String) : FailsWith Refused (tokens s) := by
  unfold tokens
  dsimp only
  split
  · exact refuse_refused
  · exact (Scanner.run_refused _ _).map _

end Fiducial.Yaml
