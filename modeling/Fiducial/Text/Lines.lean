import Fiducial.Text.Blank

/-!
# Bytes, characters and lines

Files are bytes in UTF-8.  A text file is read with every line ending, `\n`, `\r\n` or a lone
`\r`, turned into `\n`.  An event file is read piece by piece, so when some piece is not UTF-8 the
lines that were complete before it have already been handed on; `Text.readable` gives exactly
those lines.
-/

namespace Fiducial.Text

/-- Every line ending written as a line feed. -/
def normalizeNewlines : List Char → List Char
  | [] => []
  | '\r' :: '\n' :: r => '\n' :: normalizeNewlines r
  | c :: r => (if c = '\r' then '\n' else c) :: normalizeNewlines r

def decode? (bytes : ByteArray) : Option String := String.fromUTF8? bytes

/-- The whole file as text. -/
def readFile? (bytes : ByteArray) : Option String :=
  (decode? bytes).map fun s => String.ofList (normalizeNewlines s.toList)

/-- Text cut at line feeds; the last piece is what follows the last of them. -/
def splitLines : List Char → List Char × List (List Char)
  | [] => ([], [])
  | c :: r =>
    let (first, rest) := splitLines r
    if c = '\n' then ([], first :: rest) else (c :: first, rest)

/-- The lines of a text, without an empty one after a final line feed. -/
def lines (s : String) : List String :=
  let (first, rest) := splitLines (normalizeNewlines s.toList)
  let all := first :: rest
  (if all.getLast? = some [] then all.dropLast else all).map String.ofList

/-- The lines of a text that are closed by a line feed; a final carriage return may still turn out
to belong to a longer line ending. -/
def completeLines (s : String) : List String :=
  let cs := s.toList
  let settled := if cs.getLast? = some '\r' then cs.dropLast else cs
  let (first, rest) := splitLines (normalizeNewlines settled)
  ((first :: rest).dropLast).map String.ofList

/-- How many bytes are read at a time. -/
def pieceSize : Nat := 8192

/-- Whether some continuation makes the bytes whole characters. -/
def isExtendable (bytes : ByteArray) : Bool :=
  [0x80, 0x90, 0xa0, 0xbf].any fun b =>
    [[], [0x80], [0x80, 0x80]].any fun r => (decode? (bytes ++ ⟨(b :: r).toArray⟩)).isSome

/-- The whole characters of some bytes, when all that is left over is the beginning of one more. -/
def decodePiece? (bytes : ByteArray) : Option String :=
  (List.range 4).findSome? fun k =>
    let cut := bytes.size - k
    if k ≤ bytes.size && (k = 0 || isExtendable (bytes.extract cut bytes.size)) then
      decode? (bytes.extract 0 cut)
    else none

/-- The text of the longest run of pieces from the start that is UTF-8 so far; `k` pieces are
left. -/
def longestRead (bytes : ByteArray) : Nat → String → String
  | 0, best => best
  | k + 1, best =>
    let size := min ((bytes.size / pieceSize + 1 - k) * pieceSize) bytes.size
    match decodePiece? (bytes.extract 0 size) with
    | some s => longestRead bytes k s
    | none => best

/-- The lines of a file, and whether reading them ended in bytes that are not UTF-8. -/
def readable (bytes : ByteArray) : List String × Bool :=
  match decode? bytes with
  | some s => (lines s, true)
  | none => (completeLines (longestRead bytes (bytes.size / pieceSize + 2) ""), false)

end Fiducial.Text
