import Fiducial.Yaml.Node

/-!
# Scalars of YAML

The value of a text under a tag: a number, a truth value, a point of the calendar or bytes.  Whole
numbers may be written to the bases two, eight, ten, sixteen and sixty.  A text that its tag does
not fit has no value.
-/

namespace Fiducial.Yaml

namespace Stamp

def numberOf (cs : List Char) : Nat := Decimal.digitsValue cs

/-- The first six digits of a fraction, as millionths. -/
def millionths (cs : List Char) : Nat :=
  let ds := cs.take 6
  numberOf (ds ++ List.replicate (6 - ds.length) '0')

def offsetOf (sign : Option Char) (hours minutes : List Char) : Int :=
  let total : Int := (60 * numberOf hours + numberOf minutes : Nat)
  if sign = some '-' then -total else total

/-- The date or moment, if there is such a day and time. -/
def toValue (s : Stamp) : Except Fault Value :=
  let y := numberOf s.year
  let m := numberOf s.month
  let d := numberOf s.day
  let bad := .error (.badValue "day is out of range for month")
  if y = 0 || m = 0 || 12 < m || d = 0 || Calendar.daysIn y m < d then bad
  else match s.clock with
    | none => .ok (.date y m d)
    | some (hour, minute, second, fraction) =>
      let offset := s.zone.map fun (sign, h, min) => offsetOf sign h min
      if 23 < numberOf hour || 59 < numberOf minute || 59 < numberOf second ||
          offset.any fun o => 1440 ≤ o.natAbs then bad
      else .ok (.moment ⟨y, m, d, numberOf hour, numberOf minute, numberOf second,
        millionths fraction, offset⟩)

end Stamp

namespace Node

/-- The letter that marks a base after a zero. -/
def baseMark (base : Nat) : Char := if base = 2 then 'b' else if base = 8 then 'o' else 'x'

/-- A number to a small base, among blanks, with a sign and with the mark of its base. -/
def baseValue? (base : Nat) (s : String) : Option Int := do
  let (negative, body) := Decimal.splitSign (← Decimal.prepare s)
  let digits := match body with
    | '0' :: c :: r => if c.toLower = baseMark base then r else body
    | r => r
  if digits = [] then none
  let n ← digits.foldlM (fun n c => (hexDigit? c).bind fun d =>
    if d < base then some (base * n + d) else none) 0
  return if negative then -(n : Int) else n

/-- The value of digits to base sixty, the last one first. -/
def sixties {β : Type} (add : β → β → β) (scale : Nat → β → Except Fault β) (zero : β)
    (digits : List β) : Except Fault β := do
  let total ← digits.foldlM (fun (p : β × Nat) d => do
    return (add p.1 (← scale p.2 d), p.2 * 60)) (zero, 1)
  return total.1

/-- A double times a whole number, which must not be beyond the doubles. -/
def scaleFloat (k : Nat) (x : Float) : Except Fault Float :=
  match Binary.ofInt? k with
  | some y => .ok (x * y)
  | none => .error .tooLarge

def badNumeral (s : String) : Fault := .badValue ("invalid literal for int(): " ++ s)

def intOf (s : String) : Except Fault Value := do
  let cs := s.toList.filter (· ≠ '_')
  let negative := cs.head? = some '-'
  let body := Plain.dropSign cs
  let decimal := fun (ds : List Char) => match Decimal.readInt? (String.ofList ds) with
    | some n =>
      if Decimal.maxDigits < (Text.foldDigits ds).countP Decimal.isAsciiDigit then
        Except.error (badNumeral s)
      else .ok n
    | none => .error (badNumeral s)
  let based := fun (base : Nat) (ds : List Char) => match baseValue? base (String.ofList ds) with
    | some n => Except.ok n
    | none => .error (badNumeral s)
  let n ← match body with
    | [] => throw .badIndex
    | ['0'] => pure 0
    | '0' :: 'b' :: r => based 2 r
    | '0' :: 'x' :: r => based 16 r
    | '0' :: r => based 8 ('0' :: r)
    | ds =>
      if ds.contains ':' then do
        let parts ← (Plain.splitColons ds).mapM decimal
        sixties (· + ·) (fun k n => .ok ((k : Int) * n)) 0 parts.reverse
      else decimal ds
  return .int (if negative then -n else n)

def floatOf (s : String) : Except Fault Value := do
  let cs := (s.toList.filter (· ≠ '_')).map Char.toLower
  let negative := cs.head? = some '-'
  let body := Plain.dropSign cs
  let decimal := fun (ds : List Char) => match Decimal.readFloat? (String.ofList ds) with
    | some x => Except.ok x
    | none => .error (.badNumber (String.ofList ds) (Text.quoted (String.ofList ds)))
  let signed := fun x : Float => if negative then -x else x
  if cs = [] then throw .badIndex
  if body = ".inf".toList then return .float (signed Binary.infinity)
  if body = ".nan".toList then return .float Binary.nan
  if body.contains ':' then
    let parts ← (Plain.splitColons body).mapM decimal
    return .float (signed (← sixties (· + ·) scaleFloat 0.0 parts.reverse))
  return .float (signed (← decimal body))

def boolOf (s : String) : Except Fault Value :=
  let word := String.ofList (s.toList.map Char.toLower)
  if ["yes", "true", "on"].contains word then .ok (.bool true)
  else if ["no", "false", "off"].contains word then .ok (.bool false)
  else .error (.missingKey (.str word))

def timeOf (s : String) : Except Fault Value :=
  match Stamp.parse? s.toList with
  | some t => t.toValue
  | none => .error (.noMember "'NoneType' object has no attribute 'groupdict'")

/-- The six bits of a character of base 64. -/
def sextet? (c : Char) : Option Nat :=
  if 'A' ≤ c && c ≤ 'Z' then some (c.toNat - 65)
  else if 'a' ≤ c && c ≤ 'z' then some (c.toNat - 71)
  else if '0' ≤ c && c ≤ '9' then some (c.toNat + 4)
  else if c = '+' then some 62
  else if c = '/' then some 63
  else none

/-- The bytes of groups of four sextets; a last group may be one or two short. -/
def sextetBytes : List Nat → Option (List UInt8)
  | a :: b :: c :: d :: r =>
    (sextetBytes r).map fun t =>
      [UInt8.ofNat (a * 4 + b / 16), UInt8.ofNat (b * 16 + c / 4), UInt8.ofNat (c * 64 + d)] ++ t
  | [a, b, c] => some [UInt8.ofNat (a * 4 + b / 16), UInt8.ofNat (b * 16 + c / 4)]
  | [a, b] => some [UInt8.ofNat (a * 4 + b / 16)]
  | [] => some []
  | _ => none

/-- The sextets of a text to base 64.  Signs of equality that fill up a group of four end it; other
characters are passed over. -/
def sextets? (got : List Nat) (pads : Nat) : List Char → Option (List Nat)
  | [] => if got.length % 4 = 0 then some got.reverse else none
  | '=' :: r =>
    if got.length % 4 < 2 then sextets? got pads r
    else if 4 ≤ got.length % 4 + pads + 1 then some got.reverse
    else sextets? got (pads + 1) r
  | c :: r =>
    match sextet? c with
    | some n => sextets? (n :: got) 0 r
    | none => sextets? got pads r

def bytesOf (s : String) : Except Fault Value :=
  if !s.toList.all (·.toNat < 0x80) then refuse
  else match (sextets? [] 0 s.toList).bind sextetBytes with
    | some bytes => .ok (.bytes bytes)
    | none => refuse

end Node
end Fiducial.Yaml
