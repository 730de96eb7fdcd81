import Fiducial.Yaml.Token

/-!
# Text in YAML

Text is written plain, between quotes, or as a block below an indicator.  In plain and quoted text a
single line break is a blank and further ones stay; a block keeps its breaks, or folds them in the
same way between lines that begin with no blank.

The loops over lines count down from the number of characters left, which every line uses up.
-/

namespace Fiducial.Yaml

/-- Breaks after a folded line: one alone is a blank. -/
def foldBreaks (first : Char) (more : List Char) : List Char :=
  if breakText first ≠ '\n' then breakText first :: more
  else if more = [] then [' ']
  else more

/-! ## Plain text -/

/-- How many characters of plain text stand here without a blank between them. -/
def plainLength (flow : Bool) : List Char → Nat
  | [] => 0
  | c :: r =>
    if isSpace c then 0
    else if c = ':' &&
        (r.head?.all isSpace || (flow && r.head?.any (",[]\x7b\x7d".toList.contains ·))) then 0
    else if flow && ",?[]\x7b\x7d".toList.contains c then 0
    else 1 + plainLength flow r

/-- The breaks and blanks between lines of plain text; a document separator ends them. -/
def plainBreaks : Nat → Cursor → List Char → Option (List Char × Cursor)
  | 0, c, acc => some (acc, c)
  | n + 1, c, acc =>
    match c.next? with
    | some ' ' => plainBreaks n c.advance acc
    | some ch =>
      if isBreak ch then
        let c' := c.advance
        if c'.atSeparator then none else plainBreaks n c' (acc ++ [breakText ch])
      else some (acc, c)
    | none => some (acc, c)

structure PlainGap where
  /-- What the gap counts as; nothing when the text ends here. -/
  text : Option (List Char)
  broke : Bool
  after : Cursor

/-- The gap after a piece of plain text. -/
def plainGap (c : Cursor) : PlainGap :=
  let (blanks, c') := c.span (· = ' ')
  match c'.next? with
  | some ch =>
    if isBreak ch then
      let c'' := c'.advance
      if c''.atSeparator then ⟨none, true, c''⟩
      else match plainBreaks c''.rest.length c'' [] with
        | none => ⟨none, true, c''⟩
        | some (more, after) => ⟨some (foldBreaks ch more), true, after⟩
    else ⟨if blanks = [] then none else some blanks, false, c'⟩
  | none => ⟨if blanks = [] then none else some blanks, false, c'⟩

/-- Plain text from here on, and whether it ended after a line break. -/
def plainText (flow : Bool) (indent : Nat) :
    Nat → Cursor → List Char → Bool → List Char × Bool × Cursor
  | 0, c, acc, broke => (acc, broke, c)
  | n + 1, c, acc, broke =>
    let k := if c.next? = some '#' then 0 else plainLength flow c.rest
    if k = 0 then (acc, broke, c)
    else
      let acc := acc ++ c.rest.take k
      let gap := plainGap (c.forward k)
      match gap.text with
      | none => (acc, gap.broke, gap.after)
      | some blanks =>
        if gap.after.next? = some '#' || (!flow && gap.after.column < indent) then
          (acc, gap.broke, gap.after)
        else
          let (text, b, c') := plainText flow indent n gap.after (acc ++ blanks) gap.broke
          -- a gap that nothing follows does not belong to the text
          if text.length = acc.length + blanks.length then (acc, b, c') else (text, b, c')

/-! ## Quoted text -/

def escapeTable : List (Char × Char) :=
  [('0', '\x00'), ('a', '\x07'), ('b', '\x08'), ('t', '\t'), ('\t', '\t'), ('n', '\n'),
    ('v', '\x0b'), ('f', '\x0c'), ('r', '\r'), ('e', '\x1b'), (' ', ' '), ('"', '"'),
    ('\\', '\\'), ('/', '/'), ('N', '\u0085'), ('_', '\u00a0'), ('L', '\u2028'), ('P', '\u2029')]

def escapeWidths : List (Char × Nat) := [('x', 2), ('u', 4), ('U', 8)]

def hexDigit? (c : Char) : Option Nat :=
  if '0' ≤ c && c ≤ '9' then some (c.toNat - 48)
  else if 'a' ≤ c && c ≤ 'f' then some (c.toNat - 87)
  else if 'A' ≤ c && c ≤ 'F' then some (c.toNat - 55)
  else none

def hexValue? (cs : List Char) : Option Nat :=
  cs.foldlM (fun n c => (hexDigit? c).map (16 * n + ·)) 0

/-- The character of a code point; a surrogate is unknown. -/
def charOf (n : Nat) : Char := if 0xd800 ≤ n && n < 0xe000 then '\ufffd' else Char.ofNat n

/-- Empty lines inside quoted text, up to the first character of the next line that has one. -/
def quotedBreaks : Nat → Cursor → List Char → Scanned (List Char)
  | 0, _, _ => refuse
  | n + 1, c, acc =>
    if c.atSeparator then refuse
    else
      let c' := c.skip fun ch => ch = ' ' || ch = '\t'
      match c'.next? with
      | some ch =>
        if isBreak ch then quotedBreaks n c'.advance (acc ++ [breakText ch]) else .ok (acc, c')
      | none => .ok (acc, c')

/-- What an escape in double quotes stands for; the backslash is read already. -/
def quotedEscape (c : Cursor) : Scanned (List Char) :=
  match c.next? with
  | none => refuse
  | some e =>
    match escapeTable.lookup e, escapeWidths.lookup e with
    | some ch, _ => .ok ([ch], c.advance)
    | none, some width =>
      let digits := c.advance.rest.take width
      if digits.length < width then refuse
      else match hexValue? digits with
        | none => refuse
        | some n =>
          if 0x7fffffff < n then .error .overflow
          else if 0x10ffff < n then .error (.badValue "chr() arg not in range(0x110000)")
          else .ok ([charOf n], c.forward (width + 1))
    | none, none =>
      if isBreak e then quotedBreaks c.rest.length c.advance [] else refuse

/-- Quoted text up to the closing quote. -/
def quotedText (double : Bool) : Nat → Cursor → List Char → Scanned (List Char)
  | 0, _, _ => refuse
  | n + 1, c, acc =>
    match c.rest with
    | [] => refuse
    | ch :: r =>
      if ch = '\'' && !double then
        if r.head? = some '\'' then quotedText double n (c.forward 2) (acc ++ ['\''])
        else .ok (acc, c.advance)
      else if ch = '"' && double then .ok (acc, c.advance)
      else if ch = '\\' && double then
        match quotedEscape c.advance with
        | .error f => .error f
        | .ok (cs, c') => quotedText double n c' (acc ++ cs)
      else if isSpace ch then
        let (blanks, c') := c.span fun b => b = ' ' || b = '\t'
        match c'.next? with
        | none => refuse
        | some b =>
          if isBreak b then
            match quotedBreaks c'.rest.length c'.advance [] with
            | .error f => .error f
            | .ok (more, c'') => quotedText double n c'' (acc ++ foldBreaks b more)
          else quotedText double n c' (acc ++ blanks)
      else
        let (cs, c') := c.span fun b => !(b = '\'' || b = '"' || b = '\\' || isSpace b)
        if cs = [] then quotedText double n c.advance (acc ++ [ch])
        else quotedText double n c' (acc ++ cs)

/-! ## Blocks of text -/

/-- What happens to the breaks at the end of a block. -/
inductive Chomping where
  | clip
  | strip
  | keep
deriving DecidableEq, Repr

structure BlockHeader where
  chomping : Chomping
  increment : Option Nat

def chompingOf? (c : Char) : Option Chomping :=
  if c = '+' then some .keep else if c = '-' then some .strip else none

def digitOf? (c : Char) : Option Nat :=
  if '0' ≤ c && c ≤ '9' then some (c.toNat - 48) else none

/-- The indicators of a block, in either order. -/
def blockHeader (c : Cursor) : Scanned BlockHeader :=
  let (first, c1) := match c.next?.bind chompingOf? with
    | some h => (some h, c.advance)
    | none => (none, c)
  let (width, c2) := match c1.next?.bind digitOf? with
    | some d => (some d, c1.advance)
    | none => (none, c1)
  let (last, c3) := match first, width, c2.next?.bind chompingOf? with
    | none, some _, some h => (some h, c2.advance)
    | _, _, _ => (none, c2)
  if width = some 0 || !(c3.rest.head?.all fun ch => ch = ' ' || isBreak ch) then refuse
  else .ok (⟨(first <|> last).getD .clip, width⟩, c3)

/-- The rest of the line of an indicator, which may hold a comment only. -/
def restOfLine (c : Cursor) : Scanned Unit :=
  let c1 := c.skip (· = ' ')
  let c2 := if c1.next? = some '#' then c1.skip (!isBreak ·) else c1
  match c2.next? with
  | none => .ok ((), c2)
  | some ch => if isBreak ch then .ok ((), c2.advance) else refuse

/-- The empty lines before a block, and the widest indentation among them and its first line. -/
def blockMargin : Nat → Cursor → List Char → Nat → List Char × Nat × Cursor
  | 0, c, acc, widest => (acc, widest, c)
  | n + 1, c, acc, widest =>
    match c.next? with
    | some ch =>
      if ch = ' ' then
        let c' := c.advance
        blockMargin n c' acc (max widest c'.column)
      else if isBreak ch then blockMargin n c.advance (acc ++ [breakText ch]) widest
      else (acc, widest, c)
    | none => (acc, widest, c)

/-- Past the indentation of a line, as far as it goes. -/
def skipIndent : Nat → Nat → Cursor → Cursor
  | 0, _, c => c
  | n + 1, indent, c =>
    if c.column < indent && c.next? = some ' ' then skipIndent n indent c.advance else c

/-- The empty lines between two lines of a block. -/
def blockBreaks (indent : Nat) : Nat → Cursor → List Char → List Char × Cursor
  | 0, c, acc => (acc, c)
  | n + 1, c, acc =>
    let c' := skipIndent indent indent c
    match c'.next? with
    | some ch =>
      if isBreak ch then blockBreaks indent n c'.advance (acc ++ [breakText ch]) else (acc, c')
    | none => (acc, c')

def isIndented (indent : Nat) (c : Cursor) : Bool := c.column = indent && !c.atEnd

def beginsBlank (c : Cursor) : Bool := c.nextIs fun ch => ch = ' ' || ch = '\t'

/-- The lines of a block from one that is indented on: the text, the last break and the empty lines
after it. -/
def blockLines (folded : Bool) (indent : Nat) :
    Nat → Cursor → List Char → List Char × List Char × List Char × Cursor
  | 0, c, acc => (acc, [], [], c)
  | n + 1, c, acc =>
    let (line, c1) := c.span (!isBreak ·)
    let (ending, c2) := match c1.next? with
      | some ch => ([breakText ch], c1.advance)
      | none => ([], c1)
    let (breaks, c3) := blockBreaks indent (c2.rest.length + 1) c2 []
    let acc := acc ++ line
    if isIndented indent c3 then
      let joint :=
        if folded && ending = ['\n'] && !beginsBlank c && !beginsBlank c3 then
          if breaks = [] then [' '] else []
        else ending
      blockLines folded indent n c3 (acc ++ joint ++ breaks)
    else (acc, ending, breaks, c3)

/-- A block of text below an indicator, in a node indented by `parent`. -/
def blockText (folded : Bool) (parent : Int) (c : Cursor) :
    Except Fault (List Char × Cursor) := do
  let (header, c1) ← blockHeader c
  let (_, c2) ← restOfLine c1
  let least := max 1 (parent + 1).toNat
  let (breaks, indent, c3) := match header.increment with
    | none =>
      let (breaks, widest, c3) := blockMargin c2.rest.length c2 [] 0
      (breaks, max least widest, c3)
    | some k =>
      let indent := least + k - 1
      let (breaks, c3) := blockBreaks indent (c2.rest.length + 1) c2 []
      (breaks, indent, c3)
  let (text, ending, after, c4) :=
    if isIndented indent c3 then blockLines folded indent c3.rest.length c3 breaks
    else ([], [], breaks, c3)
  let closed := if header.chomping = .strip then text else text ++ ending
  return (if header.chomping = .keep then closed ++ after else closed, c4)

end Fiducial.Yaml
