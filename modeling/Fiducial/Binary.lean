/-!
# Doubles as exact numbers

A finite double is a sign, a natural mantissa and a power of two.  `Binary.decode` reads these from
the bits, and `Binary.ofRatio` goes back: it takes a quotient of natural numbers to the nearest
double, a tie to the even mantissa, and what lies beyond the largest double to infinity.  Everything
that prints or reads a number passes through these two functions, so no printed digit depends on the
machine's own conversions.
-/

namespace Fiducial

/-- The quotient rounded to the nearest natural number, a half to the even neighbour. -/
def roundDiv (num den : Nat) : Nat :=
  let q := num / den
  let r := num % den
  if den < 2 * r then q + 1
  else if 2 * r = den then q + q % 2
  else q

namespace Binary

/-- What the bits of a double stand for; a finite one is `± mantissa * 2 ^ exponent`. -/
inductive Reading where
  | nan
  | infinite (negative : Bool)
  | finite (negative : Bool) (mantissa : Nat) (exponent : Int)
deriving DecidableEq, Repr

def decode (x : Float) : Reading :=
  let bits := x.toBits.toNat
  let negative := Nat.pow 2 63 ≤ bits
  let biased : Nat := bits / Nat.pow 2 52 % 2048
  let fraction := bits % Nat.pow 2 52
  if biased = 2047 then if fraction = 0 then .infinite negative else .nan
  else if biased = 0 then .finite negative fraction (-1074)
  else .finite negative (Nat.pow 2 52 + fraction) (Int.ofNat biased - 1075)

def ofBits (bits : Nat) : Float := Float.ofBits (UInt64.ofNat bits)

def infinity : Float := ofBits (2047 * Nat.pow 2 52)

def nan : Float := ofBits (2047 * Nat.pow 2 52 + Nat.pow 2 51)

/-- The numerator and denominator of `m * 2 ^ q`. -/
def ratio (m : Nat) (q : Int) : Nat × Nat :=
  if 0 ≤ q then (m * Nat.pow 2 q.toNat, 1) else (m, Nat.pow 2 (-q).toNat)

/-- The exponent `q ≥ -1074` for which `num / den` is a mantissa of 53 bits times `2 ^ q`, or the
least exponent when the quotient is too small for that. -/
def exponentFor (num den : Nat) : Int :=
  let guess : Int := (Nat.log2 num : Int) - (Nat.log2 den : Int) - 52
  let (lo, hi) := ratio (Nat.pow 2 52 * den) guess
  let q := if num * hi < lo then guess - 1 else guess
  max q (-1074)

/-- The bits of the double nearest to a positive quotient.  A mantissa that rounds up to the next
power of two carries into the exponent field, and so does the largest double into infinity. -/
def bitsOfRatio (num den : Nat) : Nat :=
  let q := exponentFor num den
  let (a, b) := ratio den q
  let m := roundDiv (num * b) a
  let bits := if m < Nat.pow 2 52 then m else (q + 1075).toNat * Nat.pow 2 52 + (m - Nat.pow 2 52)
  min bits (2047 * Nat.pow 2 52)

/-- The double nearest to `± num / den`. -/
def ofRatio (negative : Bool) (num den : Nat) : Float :=
  let bits := if num = 0 then 0 else bitsOfRatio num den
  ofBits (if negative then Nat.pow 2 63 + bits else bits)

/-- The double nearest to an integer; beyond the largest double there is none. -/
def ofInt? (n : Int) : Option Float :=
  let x := ofRatio (n < 0) n.natAbs 1
  if x.isFinite then some x else none

end Binary
end Fiducial
