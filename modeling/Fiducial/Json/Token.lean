import Fiducial.Value.Number

/-!
# Tokens of JSON

The tokens of a JSON text, blanks left out.  The list ends early with `junk` where no token can be
read, so a text is well formed only if its tokens are.  Numbers keep the difference between whole
numbers and others; besides the numbers of JSON there are `NaN`, `Infinity` and `-Infinity`.  A
whole number of more than `Decimal.maxDigits` digits is a token of its own, because it is refused.
-/

namespace Fiducial.Json

inductive Token where
  | openList
  | closeList
  | openMap
  | closeMap
  | comma
  | colon
  | text (s : String)
  | atom (v : Value)
  | tooLong
  | junk

def isBlank (c : Char) : Bool := c = ' ' || c = '\t' || c = '\n' || c = '\r'

def hexValue? (c : Char) : Option Nat :=
  if '0' ≤ c && c ≤ '9' then some (c.toNat - 48)
  else if 'a' ≤ c && c ≤ 'f' then some (c.toNat - 87)
  else if 'A' ≤ c && c ≤ 'F' then some (c.toNat - 55)
  else none

/-- The number of four hexadecimal digits. -/
def hexUnit? (a b c d : Char) : Option Nat := do
  return (((← hexValue? a) * 16 + (← hexValue? b)) * 16 + (← hexValue? c)) * 16 + (← hexValue? d)

def escapes : List (Char × Nat) :=
  [('"', 0x22), ('\\', 0x5c), ('/', 0x2f), ('b', 8), ('f', 12), ('n', 10), ('r', 13), ('t', 9)]

/-- The code units up to the closing quote, and what follows it.  Control characters must be
written as escapes. -/
def scanText : List Char → List Nat → Option (List Nat × List Char)
  | [], _ => none
  | '"' :: r, acc => some (acc.reverse, r)
  | '\\' :: 'u' :: a :: b :: c :: d :: r, acc =>
    match hexUnit? a b c d with
    | some n => scanText r (n :: acc)
    | none => none
  | '\\' :: e :: r, acc =>
    match escapes.lookup e with
    | some n => scanText r (n :: acc)
    | none => none
  | c :: r, acc => if c.toNat < 0x20 || c = '\\' then none else scanText r (c.toNat :: acc)

theorem scanText_length_lt (cs : List Char) (acc : List Nat) {p : List Nat × List Char}
    (h : scanText cs acc = some p) : p.2.length < cs.length := by
  fun_induction scanText cs acc <;> grind

/-- The text of code units: a pair of surrogates is one character, a single one is unknown. -/
def joinUnits : List Nat → List Char
  | [] => []
  | a :: r =>
    if 0xd800 ≤ a && a < 0xdc00 then
      match r with
      | b :: r' =>
        if 0xdc00 ≤ b && b < 0xe000 then
          Char.ofNat (0x10000 + (a - 0xd800) * 0x400 + (b - 0xdc00)) :: joinUnits r'
        else '\ufffd' :: joinUnits (b :: r')
      | [] => ['\ufffd']
    else if 0xdc00 ≤ a && a < 0xe000 then '\ufffd' :: joinUnits r
    else Char.ofNat a :: joinUnits r

/-- The digits of the whole part: a lone zero, or digits that do not begin with one. -/
def wholePart : List Char → List Char × List Char
  | '0' :: r => (['0'], r)
  | cs => (cs.takeWhile Decimal.isAsciiDigit, cs.dropWhile Decimal.isAsciiDigit)

/-- The point and the digits after it, when there are any. -/
def fractionPart : List Char → List Char × List Char
  | '.' :: r =>
    let ds := r.takeWhile Decimal.isAsciiDigit
    if ds = [] then ([], '.' :: r) else ('.' :: ds, r.dropWhile Decimal.isAsciiDigit)
  | cs => ([], cs)

def exponentPart : List Char → List Char × List Char
  | [] => ([], [])
  | e :: r =>
    let sign := match r with
      | '+' :: _ => ['+']
      | '-' :: _ => ['-']
      | _ => []
    let tail := r.drop sign.length
    let ds := tail.takeWhile Decimal.isAsciiDigit
    if (e = 'e' || e = 'E') && ds ≠ [] then
      (e :: (sign ++ ds), tail.dropWhile Decimal.isAsciiDigit)
    else ([], e :: r)

/-- The number at the beginning of a text that begins with a digit. -/
def scanNumber (negative : Bool) (cs : List Char) : Token × List Char :=
  let (whole, r) := wholePart cs
  let (fraction, r) := fractionPart r
  let (exponent, r) := exponentPart r
  if fraction = [] && exponent = [] then
    if Decimal.maxDigits < whole.length then (.tooLong, r)
    else
      let n := Decimal.digitsValue whole
      (.atom (.int (if negative then -(n : Int) else n)), r)
  else
    match Decimal.readUnsigned (whole ++ fraction ++ exponent) with
    | some d => (.atom (.float (d.toFloat negative)), r)
    | none => (.junk, r)

theorem wholePart_length_lt {c : Char} (cs : List Char) (h : Decimal.isAsciiDigit c) :
    (wholePart (c :: cs)).2.length < (c :: cs).length := by
  unfold wholePart
  split
  · rename_i h0
    simp_all
  · have := (List.dropWhile_suffix (l := cs) Decimal.isAsciiDigit).length_le
    simp only [List.dropWhile_cons, h, if_true, List.length_cons]
    omega

theorem fractionPart_length_le (cs : List Char) : (fractionPart cs).2.length ≤ cs.length := by
  unfold fractionPart
  split
  · rename_i r
    have := (List.dropWhile_suffix (l := r) Decimal.isAsciiDigit).length_le
    dsimp only
    split <;> simp only [List.length_cons] <;> omega
  · exact Nat.le_refl _

theorem exponentPart_length_le (cs : List Char) : (exponentPart cs).2.length ≤ cs.length := by
  cases cs with
  | nil => simp [exponentPart]
  | cons e r =>
    unfold exponentPart
    dsimp only
    generalize (match r with
      | '+' :: _ => ['+']
      | '-' :: _ => ['-']
      | _ => ([] : List Char)) = sign
    have h := (List.dropWhile_suffix (l := r.drop sign.length) Decimal.isAsciiDigit).length_le
    have := List.length_drop (i := sign.length) (l := r)
    split <;> simp only [List.length_cons] <;> omega

theorem scanNumber_length_lt (negative : Bool) {c : Char} (cs : List Char)
    (h : Decimal.isAsciiDigit c) :
    (scanNumber negative (c :: cs)).2.length < (c :: cs).length := by
  have h1 := wholePart_length_lt cs h
  have h2 := fractionPart_length_le (wholePart (c :: cs)).2
  have h3 := exponentPart_length_le (fractionPart (wholePart (c :: cs)).2).2
  have : (scanNumber negative (c :: cs)).2 =
      (exponentPart (fractionPart (wholePart (c :: cs)).2).2).2 := by
    unfold scanNumber
    dsimp only
    split
    · split <;> rfl
    · split <;> rfl
  rw [this]
  omega

def punctuation : List (Char × Token) :=
  [('[', .openList), (']', .closeList), ('\x7b', .openMap), ('\x7d', .closeMap), (',', .comma),
    (':', .colon)]

/-- The words with a value, longest first where one begins another. -/
def words : List (List Char × Value) :=
  [("null".toList, .null), ("true".toList, .bool true), ("false".toList, .bool false),
    ("NaN".toList, .float Binary.nan), ("Infinity".toList, .float Binary.infinity),
    ("-Infinity".toList, .float (-Binary.infinity))]

def tokens : List Char → List Token
  | [] => []
  | c :: r =>
    if isBlank c then tokens r
    else match punctuation.lookup c with
    | some t => t :: tokens r
    | none =>
      if c = '"' then
        match _hs : scanText r [] with
        | some p => .text (String.ofList (joinUnits p.1)) :: tokens p.2
        | none => [.junk]
      else if _hd : Decimal.isAsciiDigit c then
        let p := scanNumber false (c :: r)
        p.1 :: tokens p.2
      else match words.find? fun w => w.1.isPrefixOf (c :: r) with
        | some w => .atom w.2 :: tokens (r.drop (w.1.length - 1))
        | none =>
          match r with
          | d :: r' =>
            if _hm : c = '-' ∧ Decimal.isAsciiDigit d then
              let p := scanNumber true (d :: r')
              p.1 :: tokens p.2
            else [.junk]
          | [] => [.junk]
termination_by cs => cs.length
decreasing_by
  · simp
  · simp
  · have := scanText_length_lt _ _ _hs
    simp only [List.length_cons]
    omega
  · exact scanNumber_length_lt _ _ _hd
  · simp only [List.length_cons, List.length_drop]
    omega
  · have := scanNumber_length_lt true r' _hm.2
    simp only [List.length_cons] at this ⊢
    omega

end Fiducial.Json
