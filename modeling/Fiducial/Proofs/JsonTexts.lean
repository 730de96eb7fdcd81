import Fiducial.Json.Reader
import Fiducial.Json.Writer
import Fiducial.Proofs.NumberTexts

/-!
# JSON texts read back

A value that is written as JSON is read back as it was: its texts without their escapes, its doubles
from their shortest digits, its lists and mappings member by member.  The text has one token for
each mark and each atom of the value, whatever blanks stand after the separators, and the tokens
build the value again on any stack of lists and mappings that are still open.
-/

namespace Fiducial
namespace Json

open Decimal (Digits Numeral)

/-! ## Tokens at the beginning of a text -/

section Tokens

variable {c : Char} {rest : List Char}

theorem tokens_blank (hc : isBlank c = true) : tokens (c :: rest) = tokens rest := by
  rw [tokens.eq_def]
  simp only [hc, if_true]

theorem tokens_mark {t : Token} (hc : isBlank c = false) (hmark : punctuation.lookup c = some t) :
    tokens (c :: rest) = t :: tokens rest := by
  rw [tokens.eq_def]
  simp only [hc, hmark, Bool.false_eq_true, if_false]

theorem tokens_quote {p : List ℕ × List Char} (hscan : scanText rest [] = some p) :
    tokens ('"' :: rest) = .text (String.ofList (joinUnits p.1)) :: tokens p.2 := by
  have hmark : punctuation.lookup '"' = none := rfl
  have hblank : isBlank '"' = false := rfl
  rw [tokens.eq_def]
  simp only [hblank, hmark, Bool.false_eq_true, if_false, if_true]
  split
  next q hq =>
    obtain rfl : p = q := Option.some.inj (hscan.symm.trans hq)
    rfl
  next hq =>
    rw [hscan] at hq
    cases hq

theorem digit_bounds (hc : Decimal.isAsciiDigit c = true) : 48 ≤ c.toNat ∧ c.toNat ≤ 57 := by
  obtain ⟨hlow, hhigh⟩ := Bool.and_eq_true_iff.mp hc
  exact ⟨of_decide_eq_true hlow, of_decide_eq_true hhigh⟩

theorem ne_of_digit (hc : Decimal.isAsciiDigit c = true) {d : Char}
    (hd : Decimal.isAsciiDigit d = false) : c ≠ d := by
  rintro rfl
  rw [hc] at hd
  cases hd

theorem digit_plain (hc : Decimal.isAsciiDigit c = true) :
    isBlank c = false ∧ punctuation.lookup c = none := by
  obtain ⟨hlow, hhigh⟩ := digit_bounds hc
  rw [← Char.ofNat_toNat c]
  generalize c.toNat = n at hlow hhigh
  clear hc
  revert n
  decide

theorem tokens_digit (hc : Decimal.isAsciiDigit c = true) :
    tokens (c :: rest) =
      (scanNumber false (c :: rest)).1 :: tokens (scanNumber false (c :: rest)).2 := by
  obtain ⟨hblank, hmark⟩ := digit_plain hc
  have hquote : c ≠ '"' := ne_of_digit hc rfl
  rw [tokens.eq_def]
  simp only [hblank, hmark, hquote, hc, Bool.false_eq_true, if_false, dif_pos]

theorem tokens_minus (hc : Decimal.isAsciiDigit c = true) :
    tokens ('-' :: c :: rest) =
      (scanNumber true (c :: rest)).1 :: tokens (scanNumber true (c :: rest)).2 := by
  have hmark : punctuation.lookup '-' = none := rfl
  have hblank : isBlank '-' = false := rfl
  have hminus : Decimal.isAsciiDigit '-' = false := rfl
  have hquote : ('-' : Char) ≠ '"' := by decide
  have hword : (words.find? fun w => w.1.isPrefixOf ('-' :: c :: rest)) = none := by
    have hletter : ('I' : Char) ≠ c := (ne_of_digit hc (d := 'I') rfl).symm
    simp [words, hletter]
  rw [tokens.eq_def]
  simp only [hblank, hmark, hminus, hquote, hword, hc, Bool.false_eq_true, if_false, dif_neg,
    not_false_eq_true, and_self, dif_pos]

/-- A word is read as its value. -/
theorem tokens_word {w : List Char × Value} (hw : w ∈ words) :
    tokens (w.1 ++ rest) = .atom w.2 :: tokens rest := by
  simp only [words, List.mem_cons, List.not_mem_nil, or_false] at hw
  rcases hw with rfl | rfl | rfl | rfl | rfl | rfl
  all_goals
    rw [tokens.eq_def]
    simp [isBlank, punctuation, List.lookup, words, Decimal.isAsciiDigit, List.isPrefixOf]

end Tokens
/-! ## Texts between quotes -/

theorem scanText_escape {e : Char} {n : ℕ} (hu : e ≠ 'u') (he : escapes.lookup e = some n)
    (rest : List Char) (acc : List ℕ) :
    scanText ('\\' :: e :: rest) acc = scanText rest (n :: acc) := by
  rw [scanText.eq_def]
  split <;> grind

theorem scanText_control {n : ℕ} (hn : n < 0x20) (rest : List Char) (acc : List ℕ) :
    scanText (("\\u" ++ Text.hexDigits 4 n).toList ++ rest) acc = scanText rest (n :: acc) := by
  have hunits : ∀ n < 0x20,
      List.replicate (4 - (Nat.toDigits 16 n).length) '0' ++ Nat.toDigits 16 n =
          ['0', '0', Nat.digitChar (n / 16), Nat.digitChar (n % 16)] ∧
        hexUnit? '0' '0' (Nat.digitChar (n / 16)) (Nat.digitChar (n % 16)) = some n := by
    decide +kernel
  obtain ⟨hdigits, hunit⟩ := hunits n hn
  simp only [Text.hexDigits, hdigits, String.toList_append, String.toList_ofList]
  change scanText ('\\' :: 'u' :: '0' :: '0' :: _ :: _ :: rest) acc = _
  rw [scanText, hunit]

theorem scanText_plain {c : Char} (hquote : c ≠ '"') (hslash : c ≠ '\\') (hlow : ¬ c.toNat < 0x20)
    (rest : List Char) (acc : List ℕ) :
    scanText (c :: rest) acc = scanText rest (c.toNat :: acc) := by
  rw [scanText.eq_def]
  split <;> simp_all

/-- The escape of a character is read as the character. -/
theorem scanText_escapeChar (c : Char) (rest : List Char) (acc : List ℕ) :
    scanText ((escapeChar c).toList ++ rest) acc = scanText rest (c.toNat :: acc) := by
  unfold escapeChar
  split
  next hc => exact hc ▸ scanText_escape (by decide) rfl rest acc
  split
  next hc => exact hc ▸ scanText_escape (by decide) rfl rest acc
  split
  next hc => exact hc ▸ scanText_escape (by decide) rfl rest acc
  split
  next hc => exact hc ▸ scanText_escape (by decide) rfl rest acc
  split
  next hc => exact hc ▸ scanText_escape (by decide) rfl rest acc
  split
  next hc => exact hc ▸ scanText_escape (by decide) rfl rest acc
  split
  next hc => exact hc ▸ scanText_escape (by decide) rfl rest acc
  split
  next hc => exact scanText_control hc rest acc
  next hquote hslash _ _ _ _ _ hlow =>
    rw [String.toList_singleton]
    exact scanText_plain hquote hslash hlow rest acc

theorem scanText_escaped (cs rest : List Char) (acc : List ℕ) :
    scanText (cs.flatMap (fun c => (escapeChar c).toList) ++ '"' :: rest) acc =
      some (acc.reverse ++ cs.map Char.toNat, rest) := by
  induction cs generalizing acc with
  | nil => simp [scanText]
  | cons c cs ih =>
      rw [List.flatMap_cons, List.append_assoc, scanText_escapeChar, ih]
      simp

/-- The code units of characters are joined to the characters. -/
theorem joinUnits_map (cs : List Char) : joinUnits (cs.map Char.toNat) = cs := by
  induction cs with
  | nil => rfl
  | cons c cs ih =>
      have hvalid : c.toNat < 0xd800 ∨ 0xdfff < c.toNat ∧ c.toNat < 0x110000 := c.valid
      have hhigh : (0xd800 ≤ c.toNat && decide (c.toNat < 0xdc00)) = false := by
        simp
        omega
      have hlow : (0xdc00 ≤ c.toNat && decide (c.toNat < 0xe000)) = false := by
        simp
        omega
      rw [List.map_cons, joinUnits.eq_def]
      simp only [hhigh, hlow, Bool.false_eq_true, if_false, ih, Char.ofNat_toNat]

/-- A text between quotes is read as the text. -/
theorem tokens_quoted (s : String) (rest : List Char) :
    tokens ((quoted s).toList ++ rest) = .text s :: tokens rest := by
  have hscan := scanText_escaped s.toList rest []
  rw [List.reverse_nil, List.nil_append] at hscan
  have hchars : (quoted s).toList ++ rest =
      '"' :: (s.toList.flatMap (fun c => (escapeChar c).toList) ++ '"' :: rest) := by
    simp [quoted, String.toList_join, List.flatMap_map]
  rw [hchars, tokens_quote hscan, joinUnits_map, String.ofList_toList]

/-! ## Numbers -/

/-- A number begins with a digit. -/
theorem exists_digit_chars {n : Numeral} (hn : n.WellFormed) :
    ∃ c cs, n.chars = c :: cs ∧ Decimal.isAsciiDigit c = true := by
  obtain ⟨c, cs, hwhole⟩ := List.exists_cons_of_ne_nil hn.whole_ne
  refine ⟨c, cs ++ n.fractionChars ++ n.exponentChars, ?_, hn.whole_digits c ?_⟩
  · simp [Numeral.chars, hwhole]
  · rw [hwhole]
    exact List.mem_cons_self

/-- What is scanned after a sign, or without one, is the next token. -/
theorem tokens_numeral {n : Numeral} (hn : n.WellFormed) (negative : Bool) (rest : List Char) :
    tokens ((if negative then ['-'] else []) ++ (n.chars ++ rest)) =
      (scanNumber negative (n.chars ++ rest)).1 ::
        tokens (scanNumber negative (n.chars ++ rest)).2 := by
  obtain ⟨c, cs, hchars, hc⟩ := exists_digit_chars hn
  rw [hchars, List.cons_append]
  cases negative with
  | true => exact tokens_minus hc
  | false => exact tokens_digit hc

theorem tokens_numberText (x : Float) {rest : List Char} (hrest : Numeral.Ends rest) :
    tokens ((numberText x).toList ++ rest) = .atom (.float x) :: tokens rest := by
  unfold numberText
  split
  next hdecode =>
    rw [← Binary.eq_nan_of_decode hdecode]
    exact tokens_word (w := ("NaN".toList, .float Binary.nan)) (by simp [words])
  next negative hdecode =>
    rw [← Binary.eq_infinity_of_decode hdecode]
    cases negative with
    | true =>
        exact tokens_word (w := ("-Infinity".toList, .float (-Binary.infinity))) (by simp [words])
    | false =>
        exact tokens_word (w := ("Infinity".toList, .float Binary.infinity)) (by simp [words])
  next negative m q hdecode =>
    obtain ⟨n, hn⟩ := (Decimal.shortest m q).exists_spells
    have hsign : (if negative then "-" else "").toList = if negative then ['-'] else [] := by
      cases negative <;> rfl
    have htext : (Binary.shortestText x).toList ++ rest =
        (if negative then ['-'] else []) ++ (n.chars ++ rest) := by
      simp only [Binary.shortestText, hdecode, String.toList_append, hsign, hn.chars_eq,
        List.append_assoc]
    rw [htext, tokens_numeral hn.wellFormed,
      scanNumber_numeral hn.wellFormed hn.isFloat hrest,
      Decimal.toFloat_eq_of_value hdecode hn.value_eq]

theorem tokens_intText {k : ℤ} (hk : (Nat.toDigits 10 k.natAbs).length ≤ Decimal.maxDigits)
    {rest : List Char} (hrest : Numeral.Ends rest) :
    tokens ((intText k).toList ++ rest) = .atom (.int k) :: tokens rest := by
  let n : Numeral := ⟨Nat.toDigits 10 k.natAbs, [], none⟩
  have hn : n.WellFormed := by
    refine ⟨Nat.toDigits_ne_nil, Decimal.digits_toDigits _, ?_, nofun, nofun⟩
    by_cases hzero : k.natAbs = 0
    · left
      simp only [n, hzero, Nat.toDigits_zero]
    · exact .inr (Decimal.head_toDigits (Nat.pos_of_ne_zero hzero))
  have hchars : n.chars = Nat.toDigits 10 k.natAbs := by
    simp [n, Numeral.chars, Numeral.fractionChars, Numeral.exponentChars]
  have hscan : scanNumber (decide (k < 0)) (n.chars ++ rest) = (.atom (.int k), rest) := by
    have hwhole := wholePart_numeral hn (Numeral.stops_fractionChars (n := n) hrest)
    have hfraction := fractionPart_numeral hn hrest
    have hexponent := exponentPart_numeral hn hrest
    have hnone : n.fractionChars = [] ∧ n.exponentChars = [] := ⟨rfl, rfl⟩
    have hvalue : (if decide (k < 0) = true then -((Decimal.digitsValue n.whole : ℕ) : ℤ)
        else (Decimal.digitsValue n.whole : ℕ)) = k := by
      simp only [n, Decimal.digitsValue_toDigits, decide_eq_true_eq]
      split <;> omega
    simp only [Numeral.chars, scanNumber, List.append_assoc, hwhole, hfraction, hexponent,
      Bool.and_eq_true, decide_eq_true_eq, if_pos hnone]
    rw [if_neg (not_lt.mpr hk)]
    simpa using hvalue
  have htext : (intText k).toList ++ rest =
      (if decide (k < 0) = true then ['-'] else []) ++ (n.chars ++ rest) := by
    by_cases hneg : k < 0 <;> simp [intText, hneg, digitText, hchars]
  rw [htext, tokens_numeral hn, hscan]

/-! ## Values -/

mutual

/-- A value of null, Booleans, numbers, texts, lists and mappings of texts, whose whole numbers have
no more digits than are read. -/
def Plain : Value → Prop
  | .null | .bool _ | .float _ | .str _ => True
  | .int n => (Nat.toDigits 10 n.natAbs).length ≤ Decimal.maxDigits
  | .list xs => PlainItems xs
  | .map es => PlainEntries [] es
  | .bytes _ | .date .. | .moment _ | .set _ | .again _ => False

def PlainItems : List Value → Prop
  | [] => True
  | x :: xs => Plain x ∧ PlainItems xs

/-- The keys are texts, none of which came before. -/
def PlainEntries (before : List String) : List (Value × Value) → Prop
  | [] => True
  | (k, v) :: es => (∃ s, k = .str s ∧ s ∉ before ∧ PlainEntries (s :: before) es) ∧ Plain v

end

mutual

/-- How many lists and mappings are open at once while a value is read. -/
def depth : Value → ℕ
  | .list xs => depthOfItems xs + 1
  | .map es => depthOfEntries es + 1
  | _ => 0

def depthOfItems : List Value → ℕ
  | [] => 0
  | x :: xs => max (depth x) (depthOfItems xs)

def depthOfEntries : List (Value × Value) → ℕ
  | [] => 0
  | (_, v) :: es => max (depth v) (depthOfEntries es)

end

theorem plainItems_iff {xs : List Value} : PlainItems xs ↔ ∀ x ∈ xs, Plain x := by
  induction xs with
  | nil => simp [PlainItems]
  | cons x xs ih => rw [PlainItems, ih, List.forall_mem_cons]

theorem depthOfItems_le_iff {xs : List Value} {n : ℕ} :
    depthOfItems xs ≤ n ↔ ∀ x ∈ xs, depth x ≤ n := by
  induction xs with
  | nil => simp [depthOfItems]
  | cons x xs ih => rw [depthOfItems, max_le_iff, ih, List.forall_mem_cons]

mutual

def tokensOf : Value → List Token
  | .list xs => .openList :: itemTokens xs
  | .map es => .openMap :: entryTokens es
  | .str s => [.text s]
  | v => [.atom v]

/-- The tokens of the items of a list that is open, and of its end. -/
def itemTokens : List Value → List Token
  | [] => [.closeList]
  | x :: xs => tokensOf x ++ if xs = [] then [.closeList] else .comma :: itemTokens xs

def entryTokens : List (Value × Value) → List Token
  | [] => [.closeMap]
  | (k, v) :: es =>
    .text k.text :: .colon ::
      (tokensOf v ++ if es = [] then [.closeMap] else .comma :: entryTokens es)

end

/-! ## The tokens of what is written -/

def Blanks (cs : List Char) : Prop := ∀ c ∈ cs, isBlank c = true

theorem tokens_blanks {cs : List Char} (hcs : Blanks cs) (rest : List Char) :
    tokens (cs ++ rest) = tokens rest := by
  induction cs with
  | nil => rfl
  | cons c cs ih =>
      rw [List.cons_append, tokens_blank (hcs c List.mem_cons_self)]
      exact ih fun d hd => hcs d (List.mem_cons_of_mem c hd)

/-- Separators are their marks, with blanks after them. -/
structure Style.Separates (s : Style) : Prop where
  comma : ∃ blanks, s.comma.toList = ',' :: blanks ∧ Blanks blanks
  colon : ∃ blanks, s.colon.toList = ':' :: blanks ∧ Blanks blanks

theorem separates_compact : compact.Separates := ⟨⟨[], rfl, nofun⟩, ⟨[], rfl, nofun⟩⟩

theorem separates_spaced : spaced.Separates :=
  ⟨⟨[' '], rfl, by simp [Blanks, isBlank]⟩, ⟨[' '], rfl, by simp [Blanks, isBlank]⟩⟩

namespace Style.Separates

variable {s : Style} (hs : s.Separates) (rest : List Char)
include hs

theorem tokens_comma : tokens (s.comma.toList ++ rest) = .comma :: tokens rest := by
  obtain ⟨blanks, hcomma, hblanks⟩ := hs.comma
  rw [hcomma, List.cons_append, tokens_mark (by rfl) (by rfl), tokens_blanks hblanks]

theorem tokens_colon : tokens (s.colon.toList ++ rest) = .colon :: tokens rest := by
  obtain ⟨blanks, hcolon, hblanks⟩ := hs.colon
  rw [hcolon, List.cons_append, tokens_mark (by rfl) (by rfl), tokens_blanks hblanks]

theorem ends_comma : Numeral.Ends (s.comma.toList ++ rest) := by
  obtain ⟨blanks, hcomma, -⟩ := hs.comma
  rw [hcomma]
  rintro c ⟨⟩
  decide

end Style.Separates

theorem ends_close {c : Char} (hc : c = ']' ∨ c = '\x7d') (rest : List Char) :
    Numeral.Ends (c :: rest) := by
  rintro d ⟨⟩
  rcases hc with rfl | rfl <;> decide

/-- The characters of members, and of the mark that closes them. -/
def memberChars (s : Style) (close : Char) (members : List String) : List Char :=
  (s.comma.intercalate members).toList ++ [close]

theorem memberChars_cons (s : Style) (close : Char) (member : String) (members : List String) :
    memberChars s close (member :: members) =
      member.toList ++ if members = [] then [close]
        else s.comma.toList ++ memberChars s close members := by
  cases members with
  | nil => simp [memberChars]
  | cons next members => simp [memberChars, String.toList_intercalate]

mutual

theorem tokens_write {s : Style} (hs : s.Separates) :
    ∀ (v : Value) (rest : List Char), Plain v → Numeral.Ends rest →
      tokens ((write s v).toList ++ rest) = tokensOf v ++ tokens rest
  | .null, rest, _, _ => tokens_word (w := ("null".toList, .null)) (by simp [words])
  | .bool true, rest, _, _ => tokens_word (w := ("true".toList, .bool true)) (by simp [words])
  | .bool false, rest, _, _ => tokens_word (w := ("false".toList, .bool false)) (by simp [words])
  | .int n, rest, hv, hrest => tokens_intText hv hrest
  | .float x, rest, _, hrest => tokens_numberText x hrest
  | .str t, rest, _, _ => tokens_quoted t rest
  | .list xs, rest, hv, _ => by
      have hchars : (write s (.list xs)).toList ++ rest =
          '[' :: (memberChars s ']' (writeItems s xs) ++ rest) := by
        simp [write, memberChars]
      rw [hchars, tokens_mark (by rfl) (by rfl), tokens_items hs xs rest hv]
      rfl
  | .map es, rest, hv, _ => by
      have hchars : (write s (.map es)).toList ++ rest =
          '\x7b' :: (memberChars s '\x7d' (writeEntries s es) ++ rest) := by
        simp [write, memberChars]
      rw [hchars, tokens_mark (by rfl) (by rfl), tokens_entries hs es [] rest hv]
      rfl

theorem tokens_items {s : Style} (hs : s.Separates) :
    ∀ (xs : List Value) (rest : List Char), PlainItems xs →
      tokens (memberChars s ']' (writeItems s xs) ++ rest) = itemTokens xs ++ tokens rest
  | [], rest, _ => tokens_mark (by rfl) (by rfl)
  | x :: xs, rest, hxs => by
      have hitem := tokens_write hs x
      have hitems := tokens_items hs xs rest hxs.2
      have hnone : writeItems s xs = [] ↔ xs = [] := by cases xs <;> simp [writeItems]
      rw [writeItems, memberChars_cons, itemTokens, List.append_assoc]
      by_cases hlast : xs = []
      · rw [if_pos (hnone.mpr hlast), if_pos hlast, List.singleton_append,
          hitem _ hxs.1 (ends_close (.inl rfl) rest), tokens_mark (by rfl) (by rfl),
          List.append_assoc]
        rfl
      · rw [if_neg (mt hnone.mp hlast), if_neg hlast, List.append_assoc,
          hitem _ hxs.1 (hs.ends_comma _), hs.tokens_comma, hitems, List.append_assoc]
        rfl

theorem tokens_entries {s : Style} (hs : s.Separates) :
    ∀ (es : List (Value × Value)) (before : List String) (rest : List Char),
    PlainEntries before es →
      tokens (memberChars s '\x7d' (writeEntries s es) ++ rest) = entryTokens es ++ tokens rest
  | [], _, rest, _ => tokens_mark (by rfl) (by rfl)
  | (k, v) :: es, before, rest, hes => by
      obtain ⟨⟨t, rfl, -, hothers⟩, hv⟩ := hes
      have hvalue := tokens_write hs v
      have hentries := tokens_entries hs es _ rest hothers
      have hnone : writeEntries s es = [] ↔ es = [] := by cases es <;> simp [writeEntries]
      have hkey (r : List Char) : tokens ((quoted t ++ s.colon ++ write s v).toList ++ r) =
          .text t :: .colon :: tokens ((write s v).toList ++ r) := by
        rw [String.toList_append, String.toList_append, List.append_assoc, List.append_assoc,
          tokens_quoted, hs.tokens_colon]
      rw [writeEntries, memberChars_cons, entryTokens, List.append_assoc]
      change tokens ((quoted t ++ s.colon ++ write s v).toList ++ _) = _
      rw [hkey]
      by_cases hlast : es = []
      · rw [if_pos (hnone.mpr hlast), if_pos hlast, List.singleton_append,
          hvalue _ hv (ends_close (.inr rfl) rest), tokens_mark (by rfl) (by rfl)]
        simp [Value.text]
      · rw [if_neg (mt hnone.mp hlast), if_neg hlast, List.append_assoc,
          hvalue _ hv (hs.ends_comma _), hs.tokens_comma, hentries]
        simp [Value.text]

end

/-! ## The value of the tokens -/

/-- What is made of the rest of the tokens after a step. -/
def resume : Except Trouble (Value ⊕ List Open) → List Token → Except Trouble Value
  | .error e, _ => .error e
  | .ok (.inl v), ts => if ts.isEmpty then .ok v else .error .malformed
  | .ok (.inr st), ts => build st ts

theorem build_cons (st : List Open) (t : Token) (ts : List Token) :
    build st (t :: ts) = resume (step st t) ts := by
  rw [build]
  rcases step st t with e | (v | st') <;> rfl

/-- The keys of the entries are among these texts. -/
def KeysIn (before : List String) (entries : List (Value × Value)) : Prop :=
  ∀ e ∈ entries, ∃ t ∈ before, e.1 = .str t

theorem KeysIn.concat {before : List String} {entries : List (Value × Value)}
    (hkeys : KeysIn before entries) (t : String) (v : Value) :
    KeysIn (t :: before) (entries ++ [(.str t, v)]) := by
  intro e he
  rcases List.mem_append.mp he with hold | hlast
  · obtain ⟨u, hu, hkey⟩ := hkeys e hold
    exact ⟨u, List.mem_cons_of_mem t hu, hkey⟩
  · exact ⟨t, List.mem_cons_self, congrArg Prod.fst (List.mem_singleton.mp hlast)⟩

/-- A new key comes last. -/
theorem KeysIn.insert_new {entries : List (Value × Value)} {before : List String}
    (hkeys : KeysIn before entries) {s : String} (hs : s ∉ before) (v : Value) :
    Value.insert (.str s) v entries = entries ++ [(.str s, v)] := by
  induction entries with
  | nil => rfl
  | cons e entries ih =>
      obtain ⟨t, ht, hkey⟩ := hkeys e List.mem_cons_self
      have hne : t ≠ s := by
        rintro rfl
        exact hs ht
      obtain ⟨k, w⟩ := e
      obtain rfl : k = .str t := hkey
      have hother : Value.sameKey (.str t) (.str s) = false := decide_eq_false hne
      rw [Value.insert, hother, if_neg (by decide),
        ih fun other hmem => hkeys other (List.mem_cons_of_mem _ hmem)]
      rfl

theorem step_text {st : List Open} (hst : expectsValue st = true) (t : String) :
    step st (.text t) = deliver (.str t) st := by
  rcases st with _ | ⟨o, st⟩
  · rfl
  · cases o with
    | map entries ready => cases hst
    | _ => rfl

theorem build_key (entries : List (Value × Value)) (t : String) (st : List Open)
    (ts : List Token) :
    build (.map entries true :: st) (.text t :: .colon :: ts) =
      build (.entry entries t :: st) ts := by
  rw [build_cons]
  change build (.colon entries t :: st) (.colon :: ts) = _
  rw [build_cons]
  rfl

theorem enter_eq {st : List Open} (hst : expectsValue st = true) (hdepth : st.length < maxDepth)
    (o : Open) : enter o st = .ok (.inr (o :: st)) := by
  unfold enter
  rw [hst, if_neg (by decide), if_neg (by omega)]

-- By induction on the value, whatever stands on the stack below it: what is open there does not
-- matter until the value is delivered to it.
mutual

theorem build_tokensOf : ∀ (v : Value) (st : List Open) (ts : List Token), Plain v →
    expectsValue st = true → st.length + depth v ≤ maxDepth →
      build st (tokensOf v ++ ts) = resume (deliver v st) ts
  | .null, st, ts, _, _, _ | .bool _, st, ts, _, _, _ | .int _, st, ts, _, _, _
  | .float _, st, ts, _, _, _ => build_cons st _ ts
  | .str t, st, ts, _, hst, _ => by
      rw [← step_text hst]
      exact build_cons st _ ts
  | .list xs, st, ts, hv, hst, hdepth => by
      rw [depth] at hdepth
      have hopen : step st .openList = .ok (.inr (.list [] true :: st)) :=
        enter_eq hst (by omega) _
      rw [tokensOf, List.cons_append, build_cons, hopen]
      exact build_items xs [] st ts hv (fun _ => rfl) (by omega)
  | .map es, st, ts, hv, hst, hdepth => by
      rw [depth] at hdepth
      have hopen : step st .openMap = .ok (.inr (.map [] true :: st)) :=
        enter_eq hst (by omega) _
      rw [tokensOf, List.cons_append, build_cons, hopen]
      exact build_entries es [] [] st ts hv nofun (fun _ => rfl) (by omega)

theorem build_items : ∀ (xs items : List Value) (st : List Open) (ts : List Token), PlainItems xs →
    (xs = [] → items = []) → st.length + 1 + depthOfItems xs ≤ maxDepth →
      build (.list items true :: st) (itemTokens xs ++ ts) =
        resume (deliver (.list (items.reverse ++ xs)) st) ts
  | [], items, st, ts, _, hitems, _ => by
      obtain rfl := hitems rfl
      rw [itemTokens, List.singleton_append, build_cons]
      rfl
  | x :: xs, items, st, ts, hxs, _, hdepth => by
      rw [depthOfItems] at hdepth
      have hitem := fun ts => build_tokensOf x (.list items true :: st) ts hxs.1 rfl
        (by rw [List.length_cons]; omega)
      rw [itemTokens, List.append_assoc, hitem]
      change build (.list (x :: items) false :: st) _ = _
      by_cases hlast : xs = []
      · rw [if_pos hlast, List.singleton_append, build_cons, hlast, ← List.reverse_cons]
        rfl
      · rw [if_neg hlast, List.cons_append, build_cons]
        have hitems := build_items xs (x :: items) st ts hxs.2 (fun hnone => absurd hnone hlast)
          (by omega)
        rw [List.reverse_cons, List.append_assoc] at hitems
        exact hitems

theorem build_entries : ∀ (es entries : List (Value × Value)) (before : List String)
    (st : List Open) (ts : List Token), PlainEntries before es →
    KeysIn before entries → (es = [] → entries = []) →
      st.length + 1 + depthOfEntries es ≤ maxDepth →
        build (.map entries true :: st) (entryTokens es ++ ts) =
          resume (deliver (.map (entries ++ es)) st) ts
  | [], entries, before, st, ts, _, _, hentries, _ => by
      obtain rfl := hentries rfl
      rw [entryTokens, List.singleton_append, build_cons]
      rfl
  | (k, v) :: es, entries, before, st, ts, hes, hkeys, _, hdepth => by
      obtain ⟨⟨t, rfl, hnew, hothers⟩, hv⟩ := hes
      rw [depthOfEntries] at hdepth
      have hvalue := fun ts => build_tokensOf v (.entry entries t :: st) ts hv rfl
        (by rw [List.length_cons]; omega)
      have hdelivered : deliver v (.entry entries t :: st) =
          .ok (.inr (.map (entries ++ [(.str t, v)]) false :: st)) := by
        rw [deliver, hkeys.insert_new hnew]
      rw [entryTokens, List.cons_append, List.cons_append, List.append_assoc]
      change build _ (.text t :: .colon :: _) = _
      rw [build_key, hvalue, hdelivered]
      change build (.map (entries ++ [(.str t, v)]) false :: st) _ = _
      by_cases hlast : es = []
      · rw [if_pos hlast, List.singleton_append, build_cons, hlast]
        rfl
      · rw [if_neg hlast, List.cons_append, build_cons]
        have hentries := build_entries es (entries ++ [(.str t, v)]) (t :: before) st ts hothers
          (hkeys.concat t v) (fun hnone => absurd hnone hlast) (by omega)
        rw [List.append_assoc] at hentries
        exact hentries

end

/-- A value that is not nested too deeply is read back from its text as it was. -/
theorem read_write {s : Style} (hs : s.Separates) {v : Value} (hv : Plain v)
    (hdepth : depth v ≤ maxDepth) : read (write s v) = .ok v := by
  have hends : Numeral.Ends [] := nofun
  have htokens := tokens_write hs v [] hv hends
  have hnone : tokens [] = [] := by rw [tokens.eq_def]
  rw [List.append_nil, hnone] at htokens
  rw [read, htokens, build_tokensOf v [] [] hv rfl (by simpa using hdepth)]
  rfl

end Json
end Fiducial
