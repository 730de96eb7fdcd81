import Fiducial.Decimal.Basic
import Fiducial.Text.Blank
import Fiducial.Text.Digit

/-!
# Reading numbers

A number in text may stand among blanks, have a sign, use the digits of any script and have single
underscores between digits.  `Decimal.readFloat?` also knows `nan`, `inf` and `infinity` in any
case; `Decimal.readInt?` reads whole numbers only.
-/

namespace Fiducial.Decimal

def isAsciiDigit (c : Char) : Bool := '0' ≤ c && c ≤ '9'

def digitsValue (cs : List Char) : Nat :=
  cs.foldl (fun n c => 10 * n + (c.toNat - '0'.toNat)) 0

/-- The text without its underscores, provided each has a digit on both sides. -/
def dropUnderscores : Bool → List Char → Option (List Char)
  | _, [] => some []
  | afterDigit, '_' :: r =>
    match r with
    | c :: _ => if afterDigit && isAsciiDigit c then dropUnderscores false r else none
    | [] => none
  | _, c :: r => (dropUnderscores (isAsciiDigit c) r).map (c :: ·)

/-- The blanks that may stand around a number: the four separators are blanks of a text, but not
of a number. -/
def isPadding (c : Char) : Bool :=
  Text.isBlankChar c && !(0x1c ≤ c.toNat && c.toNat ≤ 0x1f)

/-- The characters between the outer blanks. -/
def unpad (cs : List Char) : List Char :=
  (((cs.dropWhile isPadding).reverse).dropWhile isPadding).reverse

/-- The text that a number is read from: without blanks around it, in ASCII digits and without
underscores. -/
def prepare (s : String) : Option (List Char) :=
  dropUnderscores false (Text.foldDigits (unpad s.toList))

/-- The sign and what follows it. -/
def splitSign : List Char → Bool × List Char
  | '-' :: r => (true, r)
  | '+' :: r => (false, r)
  | cs => (false, cs)

/-- The exponent after a mantissa; an absent one is zero. -/
def readExponent : List Char → Option Int
  | [] => some 0
  | c :: r =>
    if c = 'e' || c = 'E' then
      let (negative, ds) := splitSign r
      if ds ≠ [] && ds.all isAsciiDigit then
        some (if negative then -(digitsValue ds : Int) else digitsValue ds)
      else none
    else none

/-- An unsigned decimal number with an optional fraction and exponent. -/
def readUnsigned (cs : List Char) : Option Decimal :=
  let whole := cs.takeWhile isAsciiDigit
  let rest := cs.dropWhile isAsciiDigit
  let (fraction, rest) := match rest with
    | '.' :: r => (r.takeWhile isAsciiDigit, r.dropWhile isAsciiDigit)
    | r => ([], r)
  if whole = [] && fraction = [] then none
  else (readExponent rest).map fun e =>
    ⟨digitsValue (whole ++ fraction), e - (fraction.length : Int)⟩

/-- The number that a text stands for, as a double. -/
def readFloat? (s : String) : Option Float := do
  let cs ← prepare s
  let (negative, body) := splitSign cs
  let word := String.ofList (body.map Char.toLower)
  if word = "inf" || word = "infinity" then
    return if negative then -Binary.infinity else Binary.infinity
  else if word = "nan" then return Binary.nan
  else
    let d ← readUnsigned body
    return d.toFloat negative

/-- The whole number that a text stands for. -/
def readInt? (s : String) : Option Int := do
  let cs ← prepare s
  let (negative, ds) := splitSign cs
  if ds ≠ [] && ds.all isAsciiDigit then
    return if negative then -(digitsValue ds : Int) else digitsValue ds
  else none

end Fiducial.Decimal
