import Fiducial.Decimal.Basic

/-!
# Number text

The written forms of a double.  `Float.shortestText` is the form used wherever a number is shown
as such: the fewest digits that read back, positional from `1e-4` up to below `1e16` with a point
always present, otherwise with an exponent of at least two digits.  `Float.fixedText` shows a
given number of places.  `Float.rounded` and `Float.roundedPlaces` give back the double that the
rounded digits read as.
-/

namespace Fiducial

def digitText (n : Nat) : String := String.ofList (Nat.toDigits 10 n)

/-- Digits padded on the left with zeros to at least `width`. -/
def paddedText (width n : Nat) : String :=
  let ds := Nat.toDigits 10 n
  String.ofList (List.replicate (width - ds.length) '0' ++ ds)

namespace Decimal

/-- The digits with a point in them, at least one digit on each side. -/
def positional (d : Decimal) : String :=
  let ds := Nat.toDigits 10 d.digits
  let n := ds.length
  if 0 ≤ d.exponent then String.ofList (ds ++ List.replicate d.exponent.toNat '0') ++ ".0"
  else
    let k := (-d.exponent).toNat
    if k < n then String.ofList (ds.take (n - k)) ++ "." ++ String.ofList (ds.drop (n - k))
    else "0." ++ String.ofList (List.replicate (k - n) '0' ++ ds)

/-- One digit before the point, none of it for a single digit, and a signed exponent. -/
def scientific (d : Decimal) : String :=
  let ds := Nat.toDigits 10 d.digits
  let e := d.exponent + (ds.length : Int) - 1
  let head := String.ofList (ds.take 1)
  let mantissa := if ds.length ≤ 1 then head else head ++ "." ++ String.ofList (ds.drop 1)
  mantissa ++ "e" ++ (if e < 0 then "-" else "+") ++ paddedText 2 e.natAbs

/-- Positional when the first digit stands between the fourth place and the sixteenth digit. -/
def text (d : Decimal) : String :=
  let point := (length d.digits : Int) + d.exponent
  if d.digits = 0 then "0.0"
  else if -4 < point ∧ point ≤ 16 then d.positional
  else d.scientific

/-- The digits with exactly `n` places, for a decimal of exponent `-n`. -/
def fixed (n : Nat) (d : Decimal) : String :=
  let whole := digitText (d.digits / Nat.pow 10 n)
  if n = 0 then whole else whole ++ "." ++ paddedText n (d.digits % Nat.pow 10 n)

end Decimal

namespace Binary

def shortestText (x : Float) : String :=
  match decode x with
  | .nan => "nan"
  | .infinite negative => if negative then "-inf" else "inf"
  | .finite negative m q => (if negative then "-" else "") ++ (Decimal.shortest m q).text

/-- The value with `n` places after the point; the sign of a negative zero is shown. -/
def fixedText (n : Nat) (x : Float) : String :=
  match decode x with
  | .nan => "nan"
  | .infinite negative => if negative then "-inf" else "inf"
  | .finite negative m q => (if negative then "-" else "") ++ (Decimal.places n m q).fixed n

/-- The double read from the first `n` significant digits. -/
def rounded (n : Nat) (x : Float) : Float :=
  match decode x with
  | .finite negative m q => (Decimal.significant n m q).toFloat negative
  | _ => x

/-- The double read from the value with `n` places. -/
def roundedPlaces (n : Nat) (x : Float) : Float :=
  match decode x with
  | .finite negative m q => (Decimal.places n m q).toFloat negative
  | _ => x

end Binary
end Fiducial
