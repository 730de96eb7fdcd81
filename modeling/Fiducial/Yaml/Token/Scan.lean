import Fiducial.Value.Name
import Fiducial.Yaml.Token.Text

/-!
# From text to tokens

A scanner holds the cursor, the columns of the open block collections and, for each level of
brackets, the place where a simple key may have begun.  Whether something is a key shows only at
the colon after it, so a key leaves an empty slot among the tokens, which the colon fills.  A key
must end on its line and within `maxKeyLength` characters.
-/

namespace Fiducial.Yaml

/-- The place of something that may turn out to be a key. -/
structure KeyMark where
  slot : Nat
  /-- Whether it must be one, because nothing else can stand in that column. -/
  required : Bool
  index : Nat
  line : Nat
  column : Nat

structure Scanner where
  cursor : Cursor
  /-- How many brackets are open. -/
  flow : Nat
  indent : Int
  indents : List Int
  keyAllowed : Bool
  /-- The possible key of each bracket level. -/
  marks : List (Nat × KeyMark)
  slots : Array (List Token)
  finished : Bool

namespace Scanner

def maxKeyLength : Nat := 1024

def start (s : List Char) : Scanner :=
  { cursor := Cursor.start s, flow := 0, indent := -1, indents := [], keyAllowed := true,
    marks := [],
    slots := #[], finished := false }

def push (s : Scanner) (t : Token) : Scanner := { s with slots := s.slots.push [t] }

def move (s : Scanner) (c : Cursor) : Scanner := { s with cursor := c }

def allowKey (s : Scanner) (b : Bool) : Scanner := { s with keyAllowed := b }

def mark? (s : Scanner) : Option KeyMark := s.marks.lookup s.flow

def dropMark (s : Scanner) : Scanner := { s with marks := s.marks.filter (·.1 ≠ s.flow) }

/-- Gives up the possible key of this level. -/
def clearMark (s : Scanner) : Except Fault Scanner :=
  match s.mark? with
  | some k => if k.required then refuse else .ok s.dropMark
  | none => .ok s

/-- Whether a possible key can no longer be one. -/
def isStale (c : Cursor) (k : KeyMark) : Bool := k.line ≠ c.line || k.index + maxKeyLength < c.index

def dropStale (s : Scanner) : Except Fault Scanner :=
  if s.marks.any fun k => isStale s.cursor k.2 && k.2.required then refuse
  else .ok { s with marks := s.marks.filter fun k => !isStale s.cursor k.2 }

/-- Notes that a key may begin here. -/
def noteMark (s : Scanner) : Except Fault Scanner :=
  if s.keyAllowed then do
    let s ← s.clearMark
    let c := s.cursor
    let required := s.flow = 0 && s.indent = c.column
    let k : KeyMark := ⟨s.slots.size, required, c.index, c.line, c.column⟩
    return { s with marks := (s.flow, k) :: s.marks, slots := s.slots.push [] }
  else .ok s

/-- Closes the block collections to the right of a column. -/
def unwind (column : Int) : List Int → Scanner → Scanner
  | [], s => s
  | i :: is, s =>
    if s.indent > column then unwind column is { s.push .blockEnd with indent := i, indents := is }
    else s

def unwindTo (s : Scanner) (column : Int) : Scanner :=
  if s.flow ≠ 0 then s else unwind column s.indents s

def opens (s : Scanner) (column : Int) : Bool := s.indent < column

def indentTo (s : Scanner) (column : Int) : Scanner :=
  { s with indents := s.indent :: s.indents, indent := column }

/-! ## Directives, anchors and tags -/

def isWordEnd (c : Char) : Bool := c = ' ' || isBreak c

def number (c : Cursor) : Scanned Nat :=
  let (ds, c') := c.span fun ch => '0' ≤ ch && ch ≤ '9'
  if ds = [] then refuse
  else if Decimal.maxDigits < ds.length then .error Value.tooLong
  else .ok (ds.foldl (fun n d => 10 * n + (d.toNat - 48)) 0, c')

/-- A tag handle: exclamation marks with or without a word between them. -/
def tagHandle (c : Cursor) : Scanned String :=
  if c.next? ≠ some '!' then refuse
  else
    let (word, c') := c.advance.span isWordChar
    if c.advance.next? = some ' ' then .ok ("!", c.advance)
    else if c'.next? = some '!' then .ok (String.ofList ('!' :: word ++ ['!']), c'.advance)
    else refuse

def isUriChar (c : Char) : Bool :=
  ('0' ≤ c && c ≤ '9') || ('A' ≤ c && c ≤ 'Z') || ('a' ≤ c && c ≤ 'z') ||
    "-;/?:@&=+$,_.!~*'()[]".toList.contains c

/-- The bytes of escapes that follow each other. -/
def uriBytes : Nat → Cursor → List UInt8 → Scanned (List UInt8)
  | 0, c, acc => .ok (acc, c)
  | n + 1, c, acc =>
    if c.next? = some '%' then
      let ds := c.advance.rest.take 2
      match hexValue? ds with
      | some b =>
        if ds.length = 2 then uriBytes n (c.forward 3) (acc ++ [UInt8.ofNat b]) else refuse
      | none => refuse
    else .ok (acc, c)

def uriText : Nat → Cursor → List Char → Scanned (List Char)
  | 0, c, acc => .ok (acc, c)
  | n + 1, c, acc =>
    match c.next? with
    | some ch =>
      if ch = '%' then
        match uriBytes c.rest.length c [] with
        | .error f => .error f
        | .ok (bytes, c') =>
          match String.fromUTF8? ⟨bytes.toArray⟩ with
          | some t => uriText n c' (acc ++ t.toList)
          | none => refuse
      else if isUriChar ch then uriText n c.advance (acc ++ [ch])
      else .ok (acc, c)
    | none => .ok (acc, c)

def uri (c : Cursor) : Scanned String :=
  match uriText (c.rest.length + 1) c [] with
  | .error f => .error f
  | .ok ([], _) => refuse
  | .ok (cs, c') => .ok (String.ofList cs, c')

/-- The end of a word that must be followed by a blank or a break. -/
def closeWord (c : Cursor) (t : Token) : Scanned Token :=
  if c.rest.head?.all isWordEnd then .ok (t, c) else refuse

def directive (c : Cursor) : Except Fault (Token × Cursor) := do
  let (name, c1) := c.advance.span isWordChar
  if name = [] then refuse
  else
    let (_, c2) ← closeWord c1 .reserved
    let (t, c3) ←
      if name = "YAML".toList then do
        let (major, c3) ← number (c2.skip (· = ' '))
        if c3.next? ≠ some '.' then refuse
        else
          let (_, c4) ← number c3.advance
          closeWord c4 (.version major)
      else if name = "TAG".toList then do
        let (handle, c3) ← tagHandle (c2.skip (· = ' '))
        if c3.next? ≠ some ' ' then refuse
        else
          let (meaning, c4) ← uri (c3.skip (· = ' '))
          closeWord c4 (.tagHandle handle meaning)
      else .ok (.reserved, c2.skip (!isBreak ·))
    let (_, c4) ← restOfLine c3
    return (t, c4)

def isNameEnd (c : Char) : Bool := isSpace c || "?:,]\x7d%@".toList.contains c || c = '\x60'

/-- The name of an anchor or alias. -/
def name (c : Cursor) : Scanned String :=
  let (cs, c') := c.advance.span isWordChar
  if cs = [] || !(c'.rest.head?.all isNameEnd) then refuse else .ok (String.ofList cs, c')

/-- Whether a second exclamation mark follows before the next blank. -/
def hasHandle (cs : List Char) : Bool :=
  (cs.takeWhile fun c => !(c = ' ' || isBreak c)).contains '!'

def tag (c : Cursor) : Except Fault (Token × Cursor) := do
  let (t, c') ←
    if c.rest[1]? = some '<' then do
      let (suffix, c1) ← uri (c.forward 2)
      if c1.next? = some '>' then pure (Token.tag none suffix, c1.advance) else refuse
    else if c.spaceAt 1 then pure (Token.tag none "!", c.advance)
    else do
      let (handle, c1) ←
        if hasHandle c.advance.rest then tagHandle c else pure ("!", c.advance)
      let (suffix, c2) ← uri c1
      pure (Token.tag (some handle) suffix, c2)
  closeWord c' t

/-! ## One token -/

/-- Past blanks, comments and line breaks; after a break outside of brackets a key may begin. -/
def skipToToken : Nat → Scanner → Scanner
  | 0, s => s
  | n + 1, s =>
    let c := s.cursor.skip (· = ' ')
    let c := if c.next? = some '#' then c.skip (!isBreak ·) else c
    if c.nextIs isBreak then
      skipToToken n { s with cursor := c.advance, keyAllowed := s.keyAllowed || s.flow = 0 }
    else s.move c

def skipMark (s : Scanner) : Scanner :=
  if s.cursor.index = 0 && s.cursor.next? = some '\ufeff' then s.move s.cursor.advance else s

/-- A token of one character, or more, that closes everything to its right. -/
def documentMark (s : Scanner) (t : Token) (c : Cursor) : Except Fault Scanner := do
  let s ← (s.unwindTo (-1)).clearMark
  return ((s.allowKey false).push t).move c

def openFlow (s : Scanner) (t : Token) : Except Fault Scanner := do
  let s ← s.noteMark
  return { (s.push t).allowKey true with flow := s.flow + 1, cursor := s.cursor.advance }

def closeFlow (s : Scanner) (t : Token) : Except Fault Scanner := do
  let s ← s.clearMark
  if s.flow = 0 then refuse
  else return { (s.push t).allowKey false with flow := s.flow - 1, cursor := s.cursor.advance }

def comma (s : Scanner) : Except Fault Scanner := do
  let s ← s.clearMark
  return ((s.allowKey true).push .comma).move s.cursor.advance

/-- Opens a block collection in a column further right. -/
def openBlock (s : Scanner) (t : Token) : Except Fault Scanner :=
  if s.flow ≠ 0 then .ok s
  else if !s.keyAllowed then refuse
  else if s.opens s.cursor.column then .ok ((s.indentTo s.cursor.column).push t)
  else .ok s

def entry (s : Scanner) : Except Fault Scanner := do
  let s ← (← s.openBlock .blockList).clearMark
  return ((s.allowKey true).push .entry).move s.cursor.advance

def explicitKey (s : Scanner) : Except Fault Scanner := do
  let s ← (← s.openBlock .blockMap).clearMark
  return ((s.allowKey (s.flow = 0)).push .key).move s.cursor.advance

def value (s : Scanner) : Except Fault Scanner := do
  match s.mark? with
  | some k =>
    let s := s.dropMark
    let opened := s.flow = 0 && s.opens k.column
    let s := if opened then s.indentTo k.column else s
    let filled := if opened then [Token.blockMap, .key] else [.key]
    let s := { s with slots := s.slots.setIfInBounds k.slot filled }
    return ((s.allowKey false).push .value).move s.cursor.advance
  | none =>
    let s ← (← s.openBlock .blockMap).clearMark
    return ((s.allowKey (s.flow = 0)).push .value).move s.cursor.advance

/-- A token that may be, or begin, a key. -/
def keyed (s : Scanner) (scan : Cursor → Scanned Token) : Except Fault Scanner := do
  let s ← s.noteMark
  let (t, c) ← scan s.cursor
  return ((s.allowKey false).push t).move c

def textToken (plain : Bool) : Scanned (List Char) → Scanned Token
  | .ok (cs, c) => .ok (.scalar (String.ofList cs) plain, c)
  | .error f => .error f

def quoted (double : Bool) (c : Cursor) : Scanned Token :=
  textToken false (quotedText double (c.rest.length + 1) c.advance [])

def block (s : Scanner) (folded : Bool) : Except Fault Scanner := do
  let s ← (s.allowKey true).clearMark
  let (t, c) ← textToken false (blockText folded s.indent s.cursor.advance)
  return (s.push t).move c

def plain (s : Scanner) : Except Fault Scanner := do
  let s ← s.noteMark
  let c := s.cursor
  let (text, broke, after) :=
    plainText (s.flow ≠ 0) (s.indent + 1).toNat (c.rest.length + 1) c [] false
  return ((s.allowKey broke).push (.scalar (String.ofList text) true)).move after

/-- Whether plain text may begin here. -/
def beginsPlain (s : Scanner) (ch : Char) : Bool :=
  if isSpace ch then false
  else if "-?:,[]\x7b\x7d#&*!|>'\"%@".toList.contains ch || ch = '\x60' then
    !s.cursor.spaceAt 1 && (ch = '-' || (s.flow = 0 && (ch = '?' || ch = ':')))
  else true

def finish (s : Scanner) : Except Fault Scanner := do
  let s ← (s.unwindTo (-1)).clearMark
  return { (s.allowKey false).push .streamEnd with marks := [], finished := true }

def atLineStart (s : Scanner) : Bool := s.cursor.column = 0 && s.cursor.atSeparator

def next (s : Scanner) : Except Fault Scanner := do
  let s ← (skipToToken (s.cursor.rest.length + 1) s.skipMark).dropStale
  let s := s.unwindTo s.cursor.column
  match s.cursor.next? with
  | none => s.finish
  | some ch =>
    if ch = '%' && s.cursor.column = 0 then
      let s ← (s.unwindTo (-1)).clearMark
      let (t, c) ← directive s.cursor
      return ((s.allowKey false).push t).move c
    else if s.atLineStart then
      s.documentMark (if ch = '-' then .documentStart else .documentEnd) (s.cursor.forward 3)
    else if ch = '[' then s.openFlow .flowList
    else if ch = '\x7b' then s.openFlow .flowMap
    else if ch = ']' then s.closeFlow .flowListEnd
    else if ch = '\x7d' then s.closeFlow .flowMapEnd
    else if ch = ',' then s.comma
    else if ch = '-' && s.cursor.spaceAt 1 then s.entry
    else if ch = '?' && (s.flow ≠ 0 || s.cursor.spaceAt 1) then s.explicitKey
    else if ch = ':' && (s.flow ≠ 0 || s.cursor.spaceAt 1) then s.value
    else if ch = '*' then s.keyed fun c => (name c).map fun p => (.alias p.1, p.2)
    else if ch = '&' then s.keyed fun c => (name c).map fun p => (.anchor p.1, p.2)
    else if ch = '!' then s.keyed tag
    else if ch = '|' && s.flow = 0 then s.block false
    else if ch = '>' && s.flow = 0 then s.block true
    else if ch = '\'' then s.keyed (quoted false)
    else if ch = '"' then s.keyed (quoted true)
    else if s.beginsPlain ch then s.plain
    else refuse

/-- Reads on until the end; every token uses up a character. -/
def run : Nat → Scanner → Except Fault Scanner
  | 0, _ => refuse
  | n + 1, s => do
    let s ← s.next
    if s.finished then return s else run n s

end Scanner

/-- The characters that a text may hold. -/
def isAllowed (c : Char) : Bool :=
  let n := c.toNat
  n = 9 || n = 10 || n = 13 || (0x20 ≤ n && n ≤ 0x7e) || n = 0x85 || (0xa0 ≤ n && n ≤ 0xd7ff) ||
    (0xe000 ≤ n && n ≤ 0xfffd) || 0x10000 ≤ n

def tokens (s : String) : Except Fault (List Token) :=
  let cs := s.toList
  if !cs.all isAllowed then refuse
  else (Scanner.run (cs.length + 2) (Scanner.start cs)).map fun s => s.slots.toList.flatten

end Fiducial.Yaml
