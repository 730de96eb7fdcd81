import Fiducial.Binary

/-!
# Scalars

The geometry is written once over an abstract scalar.  Doubles run it; the laws of exact
arithmetic are stated for the same definitions over the real numbers.  Order and finiteness are
Boolean tests, because a double may be unordered or infinite.  A number that stands in a data file
is a double first and becomes a scalar by `Scalar.ofFloat`.
-/

namespace Fiducial

class Scalar (α : Type) extends Zero α, One α, Add α, Sub α, Mul α, Div α, Neg α where
  sqrt : α → α
  sin : α → α
  cos : α → α
  /-- The angle of the point with the given ordinate and abscissa. -/
  atan2 : α → α → α
  lt : α → α → Bool
  le : α → α → Bool
  isFinite : α → Bool
  ofFloat : Float → α
  /-- The double by which messages and records show a scalar. -/
  toFloat : α → Float
  /-- The quotient of two whole numbers. -/
  ratio : Nat → Nat → α

namespace Scalar

def ofNat {α : Type} [Scalar α] (n : Nat) : α := ratio n 1

/-- The power of ten with a negative exponent. -/
def tenth {α : Type} [Scalar α] (k : Nat) : α := ratio 1 (Nat.pow 10 k)

def abs {α : Type} [Scalar α] (a : α) : α := if lt a 0 then -a else a

def max {α : Type} [Scalar α] (a b : α) : α := if lt a b then b else a

end Scalar

instance : Scalar Float where
  zero := 0.0
  one := 1.0
  add := Float.add
  sub := Float.sub
  mul := Float.mul
  div := Float.div
  neg := Float.neg
  sqrt := Float.sqrt
  sin := Float.sin
  cos := Float.cos
  atan2 := Float.atan2
  lt a b := a < b
  le a b := a ≤ b
  isFinite := Float.isFinite
  ofFloat := id
  toFloat := id
  ratio p q := Binary.ofRatio false p q

end Fiducial
