/-!
# Blank characters

The white space of Unicode together with the four information separators.  Ids, frame names, option
values and event lines are trimmed of these on both sides, so a name made of an ideographic space is
empty here.
-/

namespace Fiducial

def Text.isBlankChar (c : Char) : Bool :=
  let n := c.toNat
  (0x9 ≤ n && n ≤ 0xd) || (0x1c ≤ n && n ≤ 0x20) || n = 0x85 || n = 0xa0 || n = 0x1680 ||
    (0x2000 ≤ n && n ≤ 0x200a) || n = 0x2028 || n = 0x2029 || n = 0x202f || n = 0x205f || n = 0x3000

namespace Text

def trimStart (cs : List Char) : List Char := cs.dropWhile isBlankChar

def trimEnd (cs : List Char) : List Char := (trimStart cs.reverse).reverse

/-- The text without its leading and trailing blanks. -/
def trim (s : String) : String := String.ofList (trimEnd (trimStart s.toList))

/-- Nothing but blanks, or nothing at all. -/
def isBlank (s : String) : Bool := s.toList.all isBlankChar

end Text
end Fiducial
