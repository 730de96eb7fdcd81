import Fiducial.Geometry.Vector

/-!
# Numeric libraries

Some routines are not made of the operations of a scalar.  They come from libraries, which differ in
the last bits from one another and from the plain formulas: a power need not be the nearest double
of the product, nor a determinant that of the cofactors.  They are therefore a parameter of
everything that is computed with them.
-/

namespace Fiducial

/-- The routines of the numeric libraries. -/
class Numerics (α : Type) where
  power : α → Nat → α
  determinant : Mat3 α → α
  /-- The rotation nearest to a matrix of positive determinant, by a decomposition that may fail. -/
  polar? : Mat3 α → Option (Mat3 α)

/-- A power of a scalar, unless it is too large for one. -/
def Scalar.power? {α : Type} [Scalar α] [Numerics α] (a : α) (n : Nat) : Option α :=
  let p := Numerics.power a n
  if isFinite a && !isFinite p then none else some p

end Fiducial
