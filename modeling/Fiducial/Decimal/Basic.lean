import Fiducial.Binary

/-!
# Decimal digits of a double

A positive double is printed from a `Decimal`: a natural number of digits and a power of ten.
`Decimal.shortest` finds the fewest digits that read back as the same double, and among those the
ones nearest to it.  `Decimal.significant` and `Decimal.places` round the exact value to a given
number of significant digits or of places, a tie to the even digit.  `Decimal.toFloat` reads a
decimal back and is exact up to the one rounding of `Binary.ofRatio`.
-/

namespace Fiducial

/-- The number `digits * 10 ^ exponent`. -/
structure Decimal where
  digits : Nat
  exponent : Int
deriving DecidableEq, Repr

namespace Decimal

/-- The numerator and denominator of `n * 10 ^ k`. -/
def ratio (n : Nat) (k : Int) : Nat × Nat :=
  if 0 ≤ k then (n * Nat.pow 10 k.toNat, 1) else (n, Nat.pow 10 (-k).toNat)

/-- Whole numbers in decimal have at most this many digits, whether they are read or written. -/
def maxDigits : Nat := 4300

/-- The number of decimal digits; zero has one. -/
def length (n : Nat) : Nat := (Nat.toDigits 10 n).length

/-- Trailing zeros moved into the exponent; `fuel` bounds how many. -/
def stripZeros : Nat → Decimal → Decimal
  | 0, d => d
  | fuel + 1, d =>
    if d.digits ≠ 0 ∧ d.digits % 10 = 0 then stripZeros fuel ⟨d.digits / 10, d.exponent + 1⟩ else d

def normalize (d : Decimal) : Decimal := stripZeros (length d.digits) d

/-- The largest `k` with `10 ^ k ≤ num / den`, for a positive quotient. -/
def magnitude (num den : Nat) : Int :=
  let guess : Int := (length num : Int) - (length den : Int)
  let (a, b) := ratio den guess
  if num * b < a then guess - 1 else guess

/-- The reals that round to the double `m * 2 ^ q`, as bounds over `4 * 2 ^ -(q - 2)`; the ends
belong to it when `m` is even. -/
structure Interval where
  low : Nat
  value : Nat
  high : Nat
  closed : Bool

def Interval.around (m : Nat) (q : Int) : Interval where
  low := if m = Nat.pow 2 52 ∧ -1074 < q then 4 * m - 1 else 4 * m - 2
  value := 4 * m
  high := 4 * m + 2
  closed := m % 2 = 0

/-- Whether the point `num / den` of the scaled line lies in the interval. -/
def Interval.contains (i : Interval) (num den : Nat) : Bool :=
  if i.closed then i.low * den ≤ num && num ≤ i.high * den
  else i.low * den < num && num < i.high * den

def distance (a b : Nat) : Nat := (a - b) + (b - a)

/-- The grid point of step `10 ^ k` that reads back as the double: of the two neighbours of the
value the nearer one in the interval, a tie to the even digit. -/
def Interval.onGrid (i : Interval) (q k : Int) : Option Decimal :=
  let (vn, vd) := Binary.ratio i.value (q - 2)
  let (gn, gd) := ratio 1 k
  let a := vn * gd / (vd * gn)
  -- `c * 10 ^ k` on the line scaled by `2 ^ -(q - 2)`
  let (sn, sd) := Binary.ratio 1 (q - 2)
  let den := gd * sn
  let point := fun c => c * gn * sd
  let inside := fun c => i.contains (point c) den
  let below := distance (i.value * den) (point a)
  let above := distance (point (a + 1)) (i.value * den)
  if inside a && inside (a + 1) then
    if below < above || (below = above && a % 2 = 0) then some ⟨a, k⟩ else some ⟨a + 1, k⟩
  else if inside a then some ⟨a, k⟩
  else if inside (a + 1) then some ⟨a + 1, k⟩
  else none

/-- The first grid with a hit among `count` more of them, each ten times finer. -/
def search (i : Interval) (q : Int) : Nat → Int → Decimal
  | 0, k => (i.onGrid q k).getD ⟨i.value, k⟩
  | count + 1, k =>
    match i.onGrid q k with
    | some d => d
    | none => search i q count (k - 1)

/-- The fewest digits that read back as the double `m * 2 ^ q`, nearest to it among those. -/
def shortest (m : Nat) (q : Int) : Decimal :=
  if m = 0 then ⟨0, 0⟩
  else
    let (num, den) := Binary.ratio m q
    normalize (search (Interval.around m q) q 17 (magnitude num den))

/-- The exact value `m * 2 ^ q` to `n` significant digits. -/
def significant (n : Nat) (m : Nat) (q : Int) : Decimal :=
  if m = 0 then ⟨0, 0⟩
  else
    let (num, den) := Binary.ratio m q
    let k := magnitude num den - (n : Int) + 1
    let (gn, gd) := ratio 1 k
    normalize ⟨roundDiv (num * gd) (den * gn), k⟩

/-- The exact value `m * 2 ^ q` to `n` places. -/
def places (n : Nat) (m : Nat) (q : Int) : Decimal :=
  let (num, den) := Binary.ratio m q
  ⟨roundDiv (num * Nat.pow 10 n) den, -(n : Int)⟩

/-- The double nearest to `± d`.  Exponents far outside the range of doubles are settled without
the power of ten. -/
def toFloat (negative : Bool) (d : Decimal) : Float :=
  let top := (length d.digits : Int) + d.exponent
  if d.digits = 0 then Binary.ofRatio negative 0 1
  else if 400 < top then if negative then -Binary.infinity else Binary.infinity
  else if top < -400 then Binary.ofRatio negative 0 1
  else
    let (num, den) := ratio d.digits d.exponent
    Binary.ofRatio negative num den

end Decimal
end Fiducial
