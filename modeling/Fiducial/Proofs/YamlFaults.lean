import Fiducial.Proofs.YamlScanFaults
import Fiducial.Yaml.Reader

/-!
# How YAML documents are refused

What goes wrong on the way from a text to its value is one of the kinds of fault with which texts
are refused: reading the tree only finds what is malformed or nested too deep, and a scalar that its
tag does not fit can also fail as the conversion does that its tag asks for.
-/

namespace Fiducial.Yaml
namespace Node

/-! ## Reading nodes -/

/-- Wherever it begins, reading fails only with faults with which a text is refused. -/
def Refusing {β : Type} (m : Read β) : Prop := ∀ r, FailsWith Refused (m.run r)

namespace Refusing

variable {β γ : Type}

theorem pure (b : β) : Refusing (Pure.pure b) := fun _ => .pure _

theorem fail : Refusing (Node.fail : Read β) := fun _ => refuse_refused

theorem throw {f : Fault} (hf : Refused f) : Refusing (throw f : Read β) := fun _ => .error hf

theorem bind {m : Read β} {g : β → Read γ} (hm : Refusing m) (hg : ∀ b, Refusing (g b)) :
    Refusing (m >>= g) :=
  fun r => (hm r).bind fun p _ => hg p.1 p.2

theorem state : Refusing (get : Read Reading) := fun _ => .ok _

theorem update (g : Reading → Reading) : Refusing (modify g : Read Unit) := fun _ => .ok _

theorem ite {c : Prop} [Decidable c] {m m' : Read β} (hm : Refusing m) (hm' : Refusing m') :
    Refusing (if c then m else m') := by
  split
  · exact hm
  · exact hm'

end Refusing

theorem peek_refusing : Refusing peek := fun _ => .ok _

theorem drop_refusing : Refusing drop := .update _

theorem expect_refusing (t : Token) : Refusing (expect t) :=
  .bind peek_refusing fun _ => .ite drop_refusing .fail

theorem nextIs_refusing (ts : List Token) : Refusing (nextIs ts) :=
  .bind peek_refusing fun _ => .pure _

theorem tagName_refusing (handle : Option String) (suffix : String) :
    Refusing (tagName handle suffix) := by
  unfold tagName
  split
  · exact .pure _
  · apply Refusing.bind .state
    intro r
    split
    · exact .pure _
    · exact .fail

theorem readAnchor_refusing : Refusing readAnchor := by
  unfold readAnchor
  apply Refusing.bind peek_refusing
  intro t
  split
  · exact .bind drop_refusing fun _ => .pure _
  · exact .pure _

theorem readTag_refusing : Refusing readTag := by
  unfold readTag
  apply Refusing.bind peek_refusing
  intro t
  split
  · apply Refusing.bind drop_refusing
    intro _
    exact .bind (tagName_refusing _ _) fun _ => .pure _
  · exact .pure _

theorem properties_refusing : Refusing properties := by
  unfold properties
  apply Refusing.bind readAnchor_refusing
  intro anchor
  split
  · exact .bind readTag_refusing fun _ => .pure _
  · apply Refusing.bind readTag_refusing
    intro tag
    split
    · exact .bind readAnchor_refusing fun _ => .pure _
    · exact .pure _

theorem nameAs_refusing (anchor : Option String) (n : Node) : Refusing (nameAs anchor n) := by
  unfold nameAs
  split
  · exact .update _
  · exact .pure _

theorem begin_refusing (anchor : Option String) (tag : Tag) : Refusing (begin anchor tag) := by
  apply Refusing.bind .state
  intro r
  apply Refusing.bind (.update _)
  intro _
  exact .bind (nameAs_refusing _ _) fun _ => .pure _

theorem listOf_refusing (anchor : Option String) (tag : Tag) {items : Read (List Node)}
    (hitems : Refusing items) : Refusing (listOf anchor tag items) :=
  .bind (begin_refusing _ _) fun _ => .bind hitems fun _ => .pure _

theorem mapOf_refusing (anchor : Option String) (tag : Tag) {entries : Read (List (Node × Node))}
    (hentries : Refusing entries) : Refusing (mapOf anchor tag entries) :=
  .bind (begin_refusing _ _) fun _ => .bind hentries fun _ => .pure _

theorem bare_refusing (anchor tag : Option String) : Refusing (bare anchor tag) :=
  .ite .fail (.pure _)

/-- What is read with `n` calls left fails only with faults with which a text is refused. -/
structure Refuses (n : Nat) : Prop where
  read : ∀ block flush depth, Refusing (read block flush depth n)
  blockNode : ∀ flush stops depth, Refusing (blockNode flush stops depth n)
  flowNode : ∀ stops depth, Refusing (flowNode stops depth n)
  blockItems : ∀ depth acc, Refusing (blockItems depth n acc)
  flushItems : ∀ depth acc, Refusing (flushItems depth n acc)
  blockEntries : ∀ depth acc, Refusing (blockEntries depth n acc)
  flowItems : ∀ depth first acc, Refusing (flowItems depth first n acc)
  flowEntries : ∀ depth first acc, Refusing (flowEntries depth first n acc)

section Step

variable {n : Nat} (h : Refuses n)
include h

theorem read_refusing (block flush : Bool) (depth : Nat) :
    Refusing (read block flush depth (n + 1)) := by
  unfold read
  extract_lets rest
  have hrest (u : Unit) : Refusing (rest u) := by
    apply Refusing.bind peek_refusing
    intro first
    split
    · apply Refusing.bind drop_refusing
      intro _
      apply Refusing.bind .state
      intro r
      split
      · exact .pure _
      · exact .fail
    · apply Refusing.bind properties_refusing
      intro found
      split
      next anchor tag =>
        extract_lets named begun
        have hnamed (node : Node) : Refusing (named node) :=
          .bind (nameAs_refusing _ _) fun _ => .pure _
        have hbare : Refusing (bare anchor tag >>= named) := .bind (bare_refusing _ _) hnamed
        have hlist {items : Read (List Node)} (hitems : Refusing items) :
            Refusing (listOf anchor (collectionTag .seq tag) items >>= named) :=
          .bind (listOf_refusing _ _ hitems) hnamed
        have hmap {entries : Read (List (Node × Node))} (hentries : Refusing entries) :
            Refusing (mapOf anchor (collectionTag .map tag) entries >>= named) :=
          .bind (mapOf_refusing _ _ hentries) hnamed
        have hbegun (u : Unit) : Refusing (begun u) := by
          apply Refusing.bind peek_refusing
          intro first
          split
          · exact .ite (hlist (h.flushItems _ _)) hbare
          · exact .bind drop_refusing fun _ => hnamed _
          · exact .bind drop_refusing fun _ => hlist (h.flowItems _ _ _)
          · exact .bind drop_refusing fun _ => hmap (h.flowEntries _ _ _)
          · exact .ite (.bind drop_refusing fun _ => hlist (h.blockItems _ _)) hbare
          · exact .ite (.bind drop_refusing fun _ => hmap (h.blockEntries _ _)) hbare
          · exact hbare
        split
        · apply Refusing.bind .state
          intro r
          exact .ite (.bind .fail hbegun) (hbegun ())
        · exact hbegun ()
  exact .ite (.bind (.throw (by decide)) hrest) (hrest ())

theorem blockNode_refusing (flush : Bool) (stops : List Token) (depth : Nat) :
    Refusing (blockNode flush stops depth (n + 1)) := by
  unfold blockNode
  apply Refusing.bind (nextIs_refusing _)
  intro stop
  exact .ite (.pure _) (h.read _ _ _)

theorem flowNode_refusing (stops : List Token) (depth : Nat) :
    Refusing (flowNode stops depth (n + 1)) := by
  unfold flowNode
  apply Refusing.bind (nextIs_refusing _)
  intro stop
  exact .ite (.pure _) (h.read _ _ _)

theorem blockItems_refusing (depth : Nat) (acc : List Node) :
    Refusing (blockItems depth (n + 1) acc) := by
  unfold blockItems
  apply Refusing.bind (nextIs_refusing _)
  intro entry
  apply Refusing.ite
  · apply Refusing.bind drop_refusing
    intro _
    exact .bind (h.blockNode _ _ _) fun _ => h.blockItems _ _
  · exact .bind (expect_refusing _) fun _ => .pure _

theorem flushItems_refusing (depth : Nat) (acc : List Node) :
    Refusing (flushItems depth (n + 1) acc) := by
  unfold flushItems
  apply Refusing.bind (nextIs_refusing _)
  intro entry
  apply Refusing.ite
  · apply Refusing.bind drop_refusing
    intro _
    exact .bind (h.blockNode _ _ _) fun _ => h.flushItems _ _
  · exact .pure _

theorem blockEntries_refusing (depth : Nat) (acc : List (Node × Node)) :
    Refusing (blockEntries depth (n + 1) acc) := by
  unfold blockEntries
  apply Refusing.bind (nextIs_refusing _)
  intro key
  apply Refusing.ite
  · apply Refusing.bind drop_refusing
    intro _
    apply Refusing.bind (h.blockNode _ _ _)
    intro k
    apply Refusing.bind (nextIs_refusing _)
    intro value
    apply Refusing.ite
    · apply Refusing.bind drop_refusing
      intro _
      exact .bind (h.blockNode _ _ _) fun _ => h.blockEntries _ _
    · exact .bind (.pure _) fun _ => h.blockEntries _ _
  · exact .bind (expect_refusing _) fun _ => .pure _

/-- The value of a key between brackets, or an absent one. -/
theorem flowValue_refusing {γ : Type} (stops : List Token) (depth : Nat) {g : Node → Read γ}
    (hg : ∀ v, Refusing (g v)) :
    Refusing (do
      if ← nextIs [.value] then do
        drop
        let v ← flowNode stops depth n
        g v
      else do
        let v ← Pure.pure absent
        g v) := by
  apply Refusing.bind (nextIs_refusing _)
  intro value
  apply Refusing.ite
  · apply Refusing.bind drop_refusing
    intro _
    exact .bind (h.flowNode _ _) hg
  · exact .bind (.pure _) hg

theorem flowItems_refusing (depth : Nat) (first : Bool) (acc : List Node) :
    Refusing (flowItems depth first (n + 1) acc) := by
  unfold flowItems
  apply Refusing.bind (nextIs_refusing _)
  intro closed
  apply Refusing.ite
  · exact .bind drop_refusing fun _ => .pure _
  · extract_lets rest
    have hrest (u : Unit) : Refusing (rest u) := by
      apply Refusing.bind (nextIs_refusing _)
      intro key
      apply Refusing.ite
      · apply Refusing.bind drop_refusing
        intro _
        apply Refusing.bind (h.flowNode _ _)
        intro k
        apply flowValue_refusing h
        intro v
        exact .bind (begin_refusing _ _) fun _ => h.flowItems _ _ _
      · apply Refusing.bind (nextIs_refusing _)
        intro closed
        apply Refusing.ite
        · exact .bind drop_refusing fun _ => .pure _
        · exact .bind (h.read _ _ _) fun _ => h.flowItems _ _ _
    exact .ite (.bind (expect_refusing _) hrest) (hrest ())

theorem flowEntries_refusing (depth : Nat) (first : Bool) (acc : List (Node × Node)) :
    Refusing (flowEntries depth first (n + 1) acc) := by
  unfold flowEntries
  apply Refusing.bind (nextIs_refusing _)
  intro closed
  apply Refusing.ite
  · exact .bind drop_refusing fun _ => .pure _
  · extract_lets rest
    have hrest (u : Unit) : Refusing (rest u) := by
      apply Refusing.bind (nextIs_refusing _)
      intro key
      apply Refusing.ite
      · apply Refusing.bind drop_refusing
        intro _
        apply Refusing.bind (h.flowNode _ _)
        intro k
        exact flowValue_refusing h _ _ fun v => h.flowEntries _ _ _
      · apply Refusing.bind (nextIs_refusing _)
        intro closed
        apply Refusing.ite
        · exact .bind drop_refusing fun _ => .pure _
        · exact .bind (h.read _ _ _) fun _ => h.flowEntries _ _ _
    exact .ite (.bind (expect_refusing _) hrest) (hrest ())

end Step

theorem refuses (n : Nat) : Refuses n := by
  induction n with
  | zero => constructor <;> intros <;> exact .fail
  | succ n ih =>
      constructor
      case read => exact read_refusing ih
      case blockNode => exact blockNode_refusing ih
      case flowNode => exact flowNode_refusing ih
      case blockItems => exact blockItems_refusing ih
      case flushItems => exact flushItems_refusing ih
      case blockEntries => exact blockEntries_refusing ih
      case flowItems => exact flowItems_refusing ih
      case flowEntries => exact flowEntries_refusing ih

/-! ## Documents -/

theorem directives_refusing (n : Nat) (seen : Bool) : Refusing (directives n seen) := by
  induction n generalizing seen with
  | zero => exact .pure _
  | succ n ih =>
      unfold directives
      apply Refusing.bind peek_refusing
      intro t
      split
      · extract_lets rest
        have hrest (u : Unit) : Refusing (rest u) := .bind drop_refusing fun _ => ih _
        exact .ite (.bind .fail hrest) (hrest ())
      · apply Refusing.bind .state
        intro r
        extract_lets rest
        have hrest (u : Unit) : Refusing (rest u) := by
          apply Refusing.bind drop_refusing
          intro _
          exact .bind (.update _) fun _ => ih _
        exact .ite (.bind .fail hrest) (hrest ())
      · exact .bind drop_refusing fun _ => ih _
      · exact .pure _

theorem skipEnds_refusing (n : Nat) : Refusing (skipEnds n) := by
  induction n with
  | zero => exact .pure _
  | succ n ih =>
      unfold skipEnds
      apply Refusing.bind (nextIs_refusing _)
      intro ended
      exact .ite (.bind drop_refusing fun _ => ih) (.pure _)

theorem content_refusing (size : Nat) : Refusing (content size) := by
  unfold content
  apply Refusing.bind peek_refusing
  intro t
  split
  · exact .ite (.pure _) ((refuses size).read _ _ _)
  · exact .fail

theorem document_refusing : Refusing document := by
  unfold document
  apply Refusing.bind .state
  intro r
  extract_lets size rest
  apply Refusing.bind (nextIs_refusing _)
  intro ended
  apply Refusing.ite (.pure _)
  apply Refusing.bind peek_refusing
  intro first
  extract_lets explicit
  have hrest (node : Node) : Refusing (rest node) := by
    apply Refusing.bind (skipEnds_refusing _)
    intro _
    exact .bind (expect_refusing _) fun _ => .pure _
  apply Refusing.ite
  · apply Refusing.bind (directives_refusing _ _)
    intro _
    apply Refusing.bind (.update _)
    intro _
    apply Refusing.bind (expect_refusing _)
    intro _
    exact .bind (content_refusing _) hrest
  · apply Refusing.bind (.update _)
    intro _
    exact .bind ((refuses size).read _ _ _) hrest

theorem ofTokens?_refused (ts : List Token) : FailsWith Refused (Document.ofTokens? ts) :=
  .bind (document_refusing _) fun _ _ => .pure _

/-! ## Scalars -/

theorem toValue_stamp_refused (t : Stamp) : FailsWith Refused t.toValue := by
  unfold Stamp.toValue
  extract_lets y m d bad
  have hbad : FailsWith Refused bad := .error (badValue_refused _)
  apply FailsWith.ite hbad
  split
  · exact .ok _
  · exact .ite hbad (.ok _)

theorem sixties_refused {β : Type} {add : β → β → β} {scale : Nat → β → Except Fault β}
    (hscale : ∀ k b, FailsWith Refused (scale k b)) (zero : β) (digits : List β) :
    FailsWith Refused (sixties add scale zero digits) := by
  unfold sixties
  apply FailsWith.bind
  · apply FailsWith.foldlM
    intro p d _
    exact .bind (hscale _ _) fun _ _ => .pure _
  · exact fun _ _ => .pure _

theorem scaleFloat_refused (k : Nat) (x : Float) : FailsWith Refused (scaleFloat k x) := by
  unfold scaleFloat
  split
  · exact .ok _
  · exact .error (by decide)

/-- A sign alone has no digits to look at. -/
theorem intOf_refused (s : String) : FailsWith Refused (intOf s) := by
  unfold intOf
  extract_lets cs negative body decimal based value
  have hvalue (n : Int) : FailsWith Refused (value n) := .pure _
  have hbad : Refused (badNumeral s) := badValue_refused _
  have hdecimal (ds : List Char) : FailsWith Refused (decimal ds) := by
    simp only [decimal]
    split
    · exact .ite (.error hbad) (.ok _)
    · exact .error hbad
  have hbased (base : Nat) (ds : List Char) : FailsWith Refused (based base ds) := by
    simp only [based]
    split
    · exact .ok _
    · exact .error hbad
  clear_value body
  split
  · exact .error (by decide)
  · exact hvalue 0
  · exact .bind (hbased _ _) fun n _ => hvalue n
  · exact .bind (hbased _ _) fun n _ => hvalue n
  · exact .bind (hbased _ _) fun n _ => hvalue n
  · apply FailsWith.ite
    · apply FailsWith.bind (.mapM fun ds _ => hdecimal ds)
      intro parts _
      exact .bind (sixties_refused (fun _ _ => .ok _) _ _) fun n _ => hvalue n
    · exact .bind (hdecimal _) fun n _ => hvalue n

theorem floatOf_refused (s : String) : FailsWith Refused (floatOf s) := by
  unfold floatOf
  extract_lets cs negative body decimal signed rest
  have hdecimal (ds : List Char) : FailsWith Refused (decimal ds) := by
    simp only [decimal]
    split
    · exact .ok _
    · exact .error (refused_of_kind .value (by decide) rfl)
  have hrest (u : Unit) : FailsWith Refused (rest u) := by
    simp only [rest]
    split
    · exact .pure _
    · split
      · exact .pure _
      · split
        · apply FailsWith.bind (.mapM fun ds _ => hdecimal ds)
          intro parts _
          apply FailsWith.bind (sixties_refused scaleFloat_refused _ _)
          exact fun _ _ => .pure _
        · apply FailsWith.bind (hdecimal body)
          exact fun _ _ => .pure _
  exact .ite (.error (by decide)) (hrest ())

theorem boolOf_refused (s : String) : FailsWith Refused (boolOf s) :=
  .ite (.ok _) (.ite (.ok _) (.error (refused_of_kind .key (by decide) rfl)))

theorem timeOf_refused (s : String) : FailsWith Refused (timeOf s) := by
  unfold timeOf
  split
  · exact toValue_stamp_refused _
  · exact .error (by decide)

theorem bytesOf_refused (s : String) : FailsWith Refused (bytesOf s) := by
  unfold bytesOf
  apply FailsWith.ite refuse_refused
  split
  · exact .ok _
  · exact refuse_refused

/-! ## Values -/

section Values

variable (named : List Node)

theorem textOf_refused (n : Nat) (node : Node) : FailsWith Refused (textOf named n node) := by
  induction n generalizing node with
  | zero =>
      cases node with
      | scalar => exact .ok _
      | _ => exact .error (by decide)
  | succ n ih =>
      cases node with
      | scalar => exact .ok _
      | _ =>
          simp only [textOf]
          split
          · split
            · exact ih _
            · exact refuse_refused
          · exact refuse_refused

omit named in
theorem itemsOf_refused (node : Node) : FailsWith Refused node.itemsOf := by
  cases node with
  | list => exact .ok _
  | _ => exact refuse_refused

theorem pairOf_refused (node : Node) : FailsWith Refused (pairOf named node) := by
  unfold pairOf
  split
  · exact .ok _
  · exact refuse_refused

theorem mergedFrom_refused {flatten : Node → Except Fault (List (Node × Node))}
    (hflatten : ∀ node, FailsWith Refused (flatten node)) (node : Node) :
    FailsWith Refused (mergedFrom named flatten node) := by
  unfold mergedFrom
  split
  · exact hflatten _
  · apply FailsWith.bind
    · apply FailsWith.mapM
      intro x _
      split
      · exact hflatten _
      · exact refuse_refused
    · exact fun _ _ => .pure _
  · exact refuse_refused

theorem flatten_refused (n : Nat) (opened : List Nat) (node : Node) :
    FailsWith Refused (flatten named n opened node) := by
  induction n generalizing opened node with
  | zero => exact .error (by decide)
  | succ n ih =>
      cases node with
      | map t i es =>
          simp only [flatten]
          apply FailsWith.bind
          · apply FailsWith.mapM
            intro e _
            exact mergedFrom_refused named (ih _) e.2
          · exact fun _ _ => .pure _
      | _ => exact refuse_refused

theorem atomOf_refused (n : Nat) (node : Node) : FailsWith Refused (atomOf named n node) := by
  have htext := textOf_refused named n node
  unfold atomOf
  split
  · exact htext.map _
  · exact htext.bind fun s _ => boolOf_refused s
  · exact htext.bind fun s _ => intOf_refused s
  · exact htext.bind fun s _ => floatOf_refused s
  · exact htext.map _
  · exact htext.bind fun s _ => bytesOf_refused s
  · apply htext.bind
    intro s _
    split
    · exact timeOf_refused s
    · exact .error (by decide)
  · exact refuse_refused

theorem fill_refused (n : Nat) (node : Node) : FailsWith Refused (fill named n node) := by
  unfold fill
  extract_lets visit found
  have hfound (ns : List (List Node)) : FailsWith Refused (found ns) := .pure _
  have hvisit (m : Node) : FailsWith Refused (visit m) :=
    .ite (.ok _) ((atomOf_refused named n m).map _)
  have hvisits (e : Node × Node) : FailsWith Refused (do
      return (← visit e.1) ++ (← visit e.2)) := by
    apply FailsWith.bind (hvisit _)
    intro first _
    exact .bind (hvisit _) fun _ _ => .pure _
  have hpairs (xs : List Node) : FailsWith Refused (xs.mapM fun x => do
      let e ← pairOf named x
      return (← visit e.1) ++ (← visit e.2)) :=
    .mapM fun x _ => .bind (pairOf_refused named x) fun e _ => hvisits e
  split
  · apply FailsWith.bind (itemsOf_refused node)
    intro xs _
    exact .bind (.mapM fun x _ => hvisit x) fun ns _ => hfound ns
  · exact .bind (itemsOf_refused node) fun xs _ => .bind (hpairs xs) fun ns _ => hfound ns
  · exact .bind (itemsOf_refused node) fun xs _ => .bind (hpairs xs) fun ns _ => hfound ns
  · apply FailsWith.bind (flatten_refused named n [] node)
    intro es _
    apply FailsWith.bind
    · apply FailsWith.mapM
      intro e _
      exact .ite (refuse_refused) (hvisits e)
    · exact fun ns _ => hfound ns

theorem fillAll_refused (size n : Nat) (seen : List Nat) (level : List Node) :
    FailsWith Refused (fillAll named size n seen level) := by
  induction n generalizing seen level with
  | zero =>
      cases level with
      | nil => exact .ok _
      | cons => exact .error (by decide)
  | succ n ih =>
      cases level with
      | nil => exact .ok _
      | cons x xs =>
          simp only [fillAll]
          apply FailsWith.bind (.mapM fun node _ => fill_refused named size node)
          intro found _
          exact ih _ _

theorem toValue_refused (n : Nat) (within : List Nat) (node : Node) :
    FailsWith Refused (toValue named n within node) := by
  induction n generalizing within node with
  | zero => exact .error (by decide)
  | succ n ih =>
      unfold toValue
      extract_lets collection inside entry entries pair
      have hentry (e : Node × Node) : FailsWith Refused (entry e) := by
        apply FailsWith.bind (ih _ e.1)
        intro k _
        exact .ite refuse_refused (.bind (ih _ e.2) fun _ _ => .pure _)
      have hentries : FailsWith Refused entries := by
        apply FailsWith.bind (flatten_refused named _ _ _)
        intro es _
        exact .bind (.mapM fun e _ => hentry e) fun _ _ => .pure _
      have hpair (x : Node) : FailsWith Refused (pair x) := by
        apply FailsWith.bind (pairOf_refused named x)
        intro e _
        exact .bind (ih _ e.1) fun _ _ => .bind (ih _ e.2) fun _ _ => .pure _
      have hmembers {read : Node → Except Fault Value} (hread : ∀ x, FailsWith Refused (read x)) :
          FailsWith Refused (collection.itemsOf >>= fun xs => xs.mapM read >>= fun vs =>
            Pure.pure (Value.list vs)) := by
        apply FailsWith.bind (itemsOf_refused collection)
        intro xs _
        exact .bind (.mapM fun x _ => hread x) fun _ _ => .pure _
      refine .ite (.ok _) ?_
      split
      · exact hmembers (ih _)
      · exact hentries.map _
      · exact hentries.map _
      · exact hmembers hpair
      · exact hmembers hpair
      · exact atomOf_refused named _ _

end Values

theorem value_refused (d : Document) : FailsWith Refused d.value := by
  unfold Document.value
  extract_lets size rest
  have hrest (u : Unit) : FailsWith Refused (rest u) := toValue_refused _ _ _ _
  exact .ite (.bind (fillAll_refused _ _ _ _ _) fun u _ => hrest u) (hrest ())

end Node

/-- A text is read, or refused with a fault of one of the kinds listed. -/
theorem read_refused (s : String) : FailsWith Refused (read s) := by
  apply FailsWith.bind (tokens_refused s)
  intro ts _
  apply FailsWith.bind (Node.ofTokens?_refused ts)
  intro found _
  split
  · exact .pure _
  · exact Node.value_refused _

end Fiducial.Yaml
