import Fiducial.Fault

/-!
# Tokens of YAML

The tokens of a YAML text, and the cursor that reads them.  Indentation is made explicit by tokens
that open and close block lists and mappings.  Line endings are line feeds already; the next-line
character and the two Unicode separators end lines too.
-/

namespace Fiducial.Yaml

inductive Token where
  | streamEnd
  /-- A version, or a tag handle with what it stands for, or a line that is ignored. -/
  | version (major : Nat)
  | tagHandle (handle meaning : String)
  | reserved
  | documentStart
  | documentEnd
  | blockList
  | blockMap
  | blockEnd
  | flowList
  | flowListEnd
  | flowMap
  | flowMapEnd
  | entry
  | comma
  | key
  | value
  | alias (name : String)
  | anchor (name : String)
  | tag (handle : Option String) (suffix : String)
  | scalar (text : String) (plain : Bool)
deriving DecidableEq, Repr

/-- What is left to read, and where that is. -/
structure Cursor where
  rest : List Char
  index : Nat
  line : Nat
  column : Nat
deriving Repr

def isBreak (c : Char) : Bool := c = '\n' || c = '\u0085' || c = '\u2028' || c = '\u2029'

def isSpace (c : Char) : Bool := c = ' ' || c = '\t' || isBreak c

/-- The characters of anchors, directive names and tag handles. -/
def isWordChar (c : Char) : Bool :=
  ('0' ≤ c && c ≤ '9') || ('A' ≤ c && c ≤ 'Z') || ('a' ≤ c && c ≤ 'z') || c = '-' || c = '_'

/-- A break as it counts in text: all but the two separators are line feeds. -/
def breakText (c : Char) : Char := if c = '\u0085' then '\n' else c

namespace Cursor

def start (s : List Char) : Cursor := ⟨s, 0, 0, 0⟩

def atEnd (c : Cursor) : Bool := c.rest.isEmpty

def next? (c : Cursor) : Option Char := c.rest.head?

/-- Whether the next character exists and satisfies `p`. -/
def nextIs (c : Cursor) (p : Char → Bool) : Bool := c.rest.head?.any p

/-- Whether the character after `k` others is a blank or break, or there is none. -/
def spaceAt (c : Cursor) (k : Nat) : Bool := (c.rest[k]?).all isSpace

def advance (c : Cursor) : Cursor :=
  match c.rest with
  | [] => c
  | ch :: r =>
    if isBreak ch then ⟨r, c.index + 1, c.line + 1, 0⟩
    else ⟨r, c.index + 1, c.line, if ch = '\ufeff' then c.column else c.column + 1⟩

def forward : Nat → Cursor → Cursor
  | 0, c => c
  | n + 1, c => forward n c.advance

/-- The characters that satisfy `p`, and the cursor after them. -/
def span (c : Cursor) (p : Char → Bool) : List Char × Cursor :=
  let cs := c.rest.takeWhile p
  (cs, c.forward cs.length)

def skip (c : Cursor) (p : Char → Bool) : Cursor := (c.span p).2

/-- Whether a line of three dashes or dots begins here. -/
def atSeparator (c : Cursor) : Bool :=
  (c.rest.take 3 = ['-', '-', '-'] || c.rest.take 3 = ['.', '.', '.']) && c.spaceAt 3

end Cursor

/-- What a reader of a part of the text gives, with the cursor after it. -/
abbrev Scanned (β : Type) := Except Fault (β × Cursor)

def refuse {β : Type} : Except Fault β := .error .malformedData

end Fiducial.Yaml
