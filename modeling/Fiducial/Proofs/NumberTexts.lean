import Fiducial.Json.Token
import Fiducial.Proofs.ShortestDecimals

/-!
# The texts of numbers

A decimal is written as a numeral: whole digits, digits after a point and perhaps an exponent.  The
numeral has the value of the decimal, and it is read back from its characters with that value, with
whatever stands after it left over.  So what is written of a double is read back as the double.
-/

namespace Fiducial

namespace Decimal

/-! ## Digits -/

def Digits (cs : List Char) : Prop := ∀ c ∈ cs, isAsciiDigit c = true

theorem digits_toDigits (n : ℕ) : Digits (Nat.toDigits 10 n) := fun _ hc =>
  Nat.isDigit_of_mem_toDigits (by decide) (by decide) hc

theorem digits_zeros (n : ℕ) : Digits (List.replicate n '0') := fun _ hc =>
  List.eq_of_mem_replicate hc ▸ rfl

theorem digits_zero : Digits ['0'] := digits_zeros 1

namespace Digits

variable {cs ds : List Char}

theorem append (hcs : Digits cs) (hds : Digits ds) : Digits (cs ++ ds) :=
  List.forall_mem_append.mpr ⟨hcs, hds⟩

theorem take (hcs : Digits cs) (n : ℕ) : Digits (cs.take n) :=
  fun c hc => hcs c (List.mem_of_mem_take hc)

theorem drop (hcs : Digits cs) (n : ℕ) : Digits (cs.drop n) :=
  fun c hc => hcs c (List.mem_of_mem_drop hc)

/-- What stands after digits begins with no digit. -/
def Stops (rest : List Char) : Prop := ∀ c, rest.head? = some c → isAsciiDigit c = false

theorem takeWhile_append (hcs : Digits cs) {rest : List Char} (hrest : Stops rest) :
    (cs ++ rest).takeWhile isAsciiDigit = cs := by
  rw [List.takeWhile_append_of_pos hcs]
  cases rest with
  | nil => simp
  | cons c rest => simp [hrest c rfl]

theorem dropWhile_append (hcs : Digits cs) {rest : List Char} (hrest : Stops rest) :
    (cs ++ rest).dropWhile isAsciiDigit = rest := by
  rw [List.dropWhile_append_of_pos hcs]
  cases rest with
  | nil => rfl
  | cons c rest => simp [hrest c rfl]

end Digits

theorem digitsValue_eq (cs : List Char) : digitsValue cs = Nat.ofDigitChars 10 cs 0 := rfl

theorem digitsValue_append (cs ds : List Char) :
    digitsValue (cs ++ ds) = 10 ^ ds.length * digitsValue cs + digitsValue ds := by
  rw [digitsValue_eq, Nat.ofDigitChars_append, Nat.ofDigitChars_eq_ofDigitChars_zero]
  rfl

@[simp] theorem digitsValue_toDigits (n : ℕ) : digitsValue (Nat.toDigits 10 n) = n :=
  Nat.ofDigitChars_ten_toDigits

@[simp] theorem digitsValue_zeros (n : ℕ) : digitsValue (List.replicate n '0') = 0 := by
  rw [digitsValue_eq, Nat.ofDigitChars_replicate_zero, Nat.mul_zero]

/-- The digits of a positive number do not begin with a zero. -/
theorem head_toDigits {n : ℕ} (hn : 0 < n) : (Nat.toDigits 10 n).head? ≠ some '0' := by
  induction n using Nat.strong_induction_on with
  | _ n ih =>
      by_cases hsmall : n < 10
      · rw [Nat.toDigits_of_lt_base hsmall]
        clear ih
        interval_cases n <;> decide
      · rw [Nat.toDigits_of_base_le (by decide) (not_lt.mp hsmall),
          List.head?_append_of_ne_nil _ Nat.toDigits_ne_nil]
        exact ih (n / 10) (by omega) (by omega)

/-! ## Numerals -/

/-- A number without a sign, as it is written: its whole digits, those after the point and, if there
is one, the sign and the digits of its exponent. -/
structure Numeral where
  whole : List Char
  fraction : List Char
  exponent : Option (Bool × List Char)

namespace Numeral

def fractionChars (n : Numeral) : List Char := if n.fraction = [] then [] else '.' :: n.fraction

def exponentChars (n : Numeral) : List Char :=
  match n.exponent with
  | none => []
  | some (negative, ds) => 'e' :: (if negative then '-' else '+') :: ds

def chars (n : Numeral) : List Char := n.whole ++ n.fractionChars ++ n.exponentChars

/-- By how many places the exponent moves the point. -/
def shift (n : Numeral) : Int :=
  match n.exponent with
  | none => 0
  | some (negative, ds) => if negative then -(digitsValue ds : Int) else digitsValue ds

/-- The number, with all its digits before the point. -/
def decimal (n : Numeral) : Decimal :=
  ⟨digitsValue (n.whole ++ n.fraction), n.shift - n.fraction.length⟩

structure WellFormed (n : Numeral) : Prop where
  whole_ne : n.whole ≠ []
  whole_digits : Digits n.whole
  whole_lead : n.whole = ['0'] ∨ n.whole.head? ≠ some '0'
  fraction_digits : Digits n.fraction
  exponent_digits : ∀ negative ds, n.exponent = some (negative, ds) → ds ≠ [] ∧ Digits ds

/-- No number goes on in what follows. -/
def Ends (rest : List Char) : Prop :=
  ∀ c, rest.head? = some c → isAsciiDigit c = false ∧ c ≠ '.' ∧ c ≠ 'e' ∧ c ≠ 'E'

variable {n : Numeral} {rest : List Char}

theorem stops_of_ends (hrest : Ends rest) : Digits.Stops rest := fun c hc => (hrest c hc).1

theorem stops_exponentChars (hrest : Ends rest) : Digits.Stops (n.exponentChars ++ rest) := by
  unfold exponentChars
  split
  · exact stops_of_ends hrest
  · rintro c ⟨⟩
    rfl

theorem stops_fractionChars (hrest : Ends rest) :
    Digits.Stops (n.fractionChars ++ (n.exponentChars ++ rest)) := by
  unfold fractionChars
  split
  · exact stops_exponentChars hrest
  · rintro c ⟨⟩
    rfl

end Numeral

section Numerals

variable {n : Numeral}

theorem readExponent_numeral (hn : n.WellFormed) :
    readExponent n.exponentChars = some n.shift := by
  unfold Numeral.exponentChars Numeral.shift
  split
  next => rfl
  next negative ds hexponent =>
    obtain ⟨hne, hdigits⟩ := hn.exponent_digits negative ds hexponent
    have hall : ds.all Decimal.isAsciiDigit = true := List.all_eq_true.mpr hdigits
    cases negative <;> simp [readExponent, splitSign, hne, hall]

theorem readUnsigned_numeral (hn : n.WellFormed) :
    readUnsigned n.chars = some n.decimal := by
  have hends : Numeral.Ends [] := nofun
  have hwhole : Digits.Stops (n.fractionChars ++ n.exponentChars) := by
    simpa using Numeral.stops_fractionChars (n := n) hends
  have hexponent : Digits.Stops n.exponentChars := by
    simpa using Numeral.stops_exponentChars (n := n) hends
  have htake := hn.whole_digits.takeWhile_append hwhole
  have hdrop := hn.whole_digits.dropWhile_append hwhole
  unfold readUnsigned Numeral.chars
  rw [List.append_assoc, htake, hdrop]
  unfold Numeral.fractionChars
  split
  next hnone =>
    rw [List.nil_append]
    -- Without a fraction the exponent comes next, and it does not begin with a point.
    have hpoint : ∀ r, n.exponentChars ≠ '.' :: r := by
      intro r
      unfold Numeral.exponentChars
      split <;> simp
    dsimp only
    split
    next r heq => exact absurd heq (hpoint r)
    next => simp [hn.whole_ne, readExponent_numeral hn, Numeral.decimal, hnone]
  next hsome =>
    simp [hn.fraction_digits.takeWhile_append hexponent,
      hn.fraction_digits.dropWhile_append hexponent, hn.whole_ne, readExponent_numeral hn,
      Numeral.decimal]

end Numerals

/-! ## Texts of decimals -/

/-- A numeral that has the value of a decimal, and its characters. -/
structure Numeral.Spells (n : Numeral) (d : Decimal) (cs : List Char) : Prop where
  chars_eq : n.chars = cs
  wellFormed : n.WellFormed
  isFloat : n.fraction ≠ [] ∨ n.exponent.isSome
  value_eq : n.decimal.value = d.value

variable {d : Decimal}

theorem spells_zero (hzero : d.digits = 0) :
    Numeral.Spells ⟨['0'], ['0'], none⟩ d "0.0".toList where
  chars_eq := rfl
  wellFormed := ⟨List.cons_ne_nil _ _, digits_zero, .inl rfl, digits_zero, nofun⟩
  isFloat := .inl (by decide)
  value_eq := by
    have hnone : digitsValue ['0', '0'] = 0 := rfl
    simp [value, hzero, Numeral.decimal, hnone]

/-- All digits stand before the point. -/
theorem spells_whole (hpos : 0 < d.digits) (hexponent : 0 ≤ d.exponent) :
    Numeral.Spells ⟨Nat.toDigits 10 d.digits ++ List.replicate d.exponent.toNat '0', ['0'], none⟩ d
      d.positional.toList where
  chars_eq := by
    simp [positional, hexponent, Numeral.chars, Numeral.fractionChars, Numeral.exponentChars]
  wellFormed := by
    refine ⟨by simp, (digits_toDigits _).append (digits_zeros _), .inr ?_, digits_zero, nofun⟩
    rw [List.head?_append_of_ne_nil _ Nat.toDigits_ne_nil]
    exact head_toDigits hpos
  isFloat := .inl (by simp)
  value_eq := by
    obtain ⟨digits, exponent⟩ := d
    lift exponent to ℕ using hexponent
    have hzero : digitsValue ['0'] = 0 := rfl
    simp [value, Numeral.decimal, Numeral.shift, digitsValue_append, hzero]
    ring

/-- The point stands among the digits. -/
theorem spells_inside (hpos : 0 < d.digits) (hexponent : d.exponent < 0)
    (hinside : (-d.exponent).toNat < (Nat.toDigits 10 d.digits).length) :
    Numeral.Spells
      ⟨(Nat.toDigits 10 d.digits).take
          ((Nat.toDigits 10 d.digits).length - (-d.exponent).toNat),
        (Nat.toDigits 10 d.digits).drop
          ((Nat.toDigits 10 d.digits).length - (-d.exponent).toNat), none⟩ d
      d.positional.toList := by
  obtain ⟨digits, exponent⟩ := d
  obtain ⟨k, rfl⟩ : ∃ k : ℕ, exponent = -(k : ℤ) := ⟨(-exponent).toNat, by simp at *; omega⟩
  have hk : 0 < k := by simp at hexponent; omega
  simp only [neg_neg, Int.toNat_natCast] at hinside ⊢
  have hdigits := digits_toDigits digits
  constructor
  case chars_eq =>
    have hfraction : ¬ (Nat.toDigits 10 digits).length ≤ (Nat.toDigits 10 digits).length - k := by
      omega
    simp [positional, hk.ne', hinside, Numeral.chars, Numeral.fractionChars, Numeral.exponentChars,
      hfraction]
  case wellFormed =>
    refine ⟨?_, hdigits.take _, .inr ?_, hdigits.drop _, nofun⟩
    · simp
      omega
    · rw [List.head?_take, if_neg (by omega)]
      exact head_toDigits hpos
  case isFloat =>
    left
    simp
    omega
  case value_eq =>
    have hlength : ((Nat.toDigits 10 digits).drop
        ((Nat.toDigits 10 digits).length - k)).length = k := by
      rw [List.length_drop]
      omega
    simp only [value, Numeral.decimal, Numeral.shift, List.take_append_drop, digitsValue_toDigits,
      hlength, zero_sub]

/-- Zeros stand between the point and the digits. -/
theorem spells_small (hexponent : d.exponent < 0)
    (hsmall : (Nat.toDigits 10 d.digits).length ≤ (-d.exponent).toNat) :
    Numeral.Spells
      ⟨['0'], List.replicate ((-d.exponent).toNat - (Nat.toDigits 10 d.digits).length) '0' ++
        Nat.toDigits 10 d.digits, none⟩ d d.positional.toList := by
  obtain ⟨digits, exponent⟩ := d
  obtain ⟨k, rfl⟩ : ∃ k : ℕ, exponent = -(k : ℤ) := ⟨(-exponent).toNat, by simp at *; omega⟩
  have hk : 0 < k := by simp at hexponent; omega
  simp only [neg_neg, Int.toNat_natCast] at hsmall ⊢
  constructor
  case chars_eq =>
    simp [positional, hk.ne', not_lt.mpr hsmall, Numeral.chars, Numeral.fractionChars,
      Numeral.exponentChars]
  case wellFormed =>
    exact ⟨List.cons_ne_nil _ _, digits_zero, .inl rfl,
      (digits_zeros _).append (digits_toDigits _), nofun⟩
  case isFloat => exact .inl (by simp)
  case value_eq =>
    have hlength : (List.replicate (k - (Nat.toDigits 10 digits).length) '0' ++
        Nat.toDigits 10 digits).length = k := by
      rw [List.length_append, List.length_replicate]
      omega
    have hzero : digitsValue ['0'] = 0 := rfl
    simp only [value, Numeral.decimal, Numeral.shift, hlength, zero_sub, digitsValue_append,
      digitsValue_zeros, digitsValue_toDigits, hzero, mul_zero, zero_add]

theorem spells_scientific (hpos : 0 < d.digits) :
    Numeral.Spells
      ⟨(Nat.toDigits 10 d.digits).take 1, (Nat.toDigits 10 d.digits).drop 1,
        some (d.exponent + (Nat.toDigits 10 d.digits).length - 1 < 0,
          (paddedText 2 (d.exponent + (Nat.toDigits 10 d.digits).length - 1).natAbs).toList)⟩ d
      d.scientific.toList := by
  obtain ⟨digits, exponent⟩ := d
  have hdigits := digits_toDigits digits
  have hlength : 0 < (Nat.toDigits 10 digits).length := Nat.length_toDigits_pos
  simp only
  generalize hpoint : exponent + (Nat.toDigits 10 digits).length - 1 = e
  constructor
  case chars_eq =>
    have hsign : (if e < 0 then "-" else "+").toList =
        [if decide (e < 0) = true then '-' else '+'] := by
      by_cases hneg : e < 0 <;> simp [hneg]
    have htail : (Nat.toDigits 10 digits).tail = [] ↔ (Nat.toDigits 10 digits).length ≤ 1 := by
      rw [← List.drop_one, List.drop_eq_nil_iff]
    by_cases hone : (Nat.toDigits 10 digits).length ≤ 1 <;>
      simp [scientific, hpoint, hsign, hone, htail, Numeral.chars, Numeral.fractionChars,
        Numeral.exponentChars]
  case wellFormed =>
    refine ⟨?_, hdigits.take 1, .inr ?_, hdigits.drop 1, ?_⟩
    · simp
    · rw [List.head?_take, if_neg (by decide)]
      exact head_toDigits hpos
    · rintro negative ds ⟨⟩
      rw [paddedText, String.toList_ofList]
      exact ⟨by simp, (digits_zeros _).append (digits_toDigits _)⟩
  case isFloat => exact .inr rfl
  case value_eq =>
    have hshift : digitsValue (paddedText 2 e.natAbs).toList = e.natAbs := by
      rw [paddedText, String.toList_ofList, digitsValue_append, digitsValue_zeros,
        digitsValue_toDigits, mul_zero, zero_add]
    have hmove : (if decide (e < 0) = true then -(e.natAbs : ℤ) else e.natAbs) -
        ((Nat.toDigits 10 digits).drop 1).length = exponent := by
      rw [List.length_drop]
      split
      next hneg =>
        have := of_decide_eq_true hneg
        omega
      next hneg =>
        have : ¬ e < 0 := by simpa using hneg
        omega
    simp only [value, Numeral.decimal, Numeral.shift, List.take_append_drop, digitsValue_toDigits,
      hshift, hmove]

/-- A decimal is written as a number of its value. -/
theorem exists_spells (d : Decimal) : ∃ n : Numeral, n.Spells d d.text.toList := by
  unfold text
  dsimp only
  split
  next hzero => exact ⟨_, spells_zero hzero⟩
  next hne =>
    have hpos := Nat.pos_of_ne_zero hne
    split
    next =>
      by_cases hexponent : 0 ≤ d.exponent
      · exact ⟨_, spells_whole hpos hexponent⟩
      · by_cases hinside : (-d.exponent).toNat < (Nat.toDigits 10 d.digits).length
        · exact ⟨_, spells_inside hpos (not_le.mp hexponent) hinside⟩
        · exact ⟨_, spells_small (not_le.mp hexponent) (not_lt.mp hinside)⟩
    next => exact ⟨_, spells_scientific hpos⟩

end Decimal

/-! ## Numbers at the beginning of a text -/

namespace Json

open Decimal (Digits Numeral)

variable {n : Numeral} {rest : List Char}

theorem wholePart_numeral (hn : n.WellFormed) (hrest : Digits.Stops rest) :
    wholePart (n.whole ++ rest) = (n.whole, rest) := by
  rcases hn.whole_lead with hzero | hlead
  · rw [hzero]
    rfl
  · obtain ⟨c, cs, hwhole⟩ := List.exists_cons_of_ne_nil hn.whole_ne
    have hc : c ≠ '0' := by
      rintro rfl
      exact hlead (by rw [hwhole]; rfl)
    have htake := hn.whole_digits.takeWhile_append hrest
    have hdrop := hn.whole_digits.dropWhile_append hrest
    rw [hwhole, List.cons_append] at htake hdrop ⊢
    unfold wholePart
    split
    next heq => exact absurd (List.cons.inj heq).1 hc
    next => rw [htake, hdrop]

theorem fractionPart_numeral (hn : n.WellFormed) (hrest : Numeral.Ends rest) :
    fractionPart (n.fractionChars ++ (n.exponentChars ++ rest)) =
      (n.fractionChars, n.exponentChars ++ rest) := by
  have hstops := Numeral.stops_exponentChars (n := n) hrest
  unfold Numeral.fractionChars
  split
  next =>
    rw [List.nil_append]
    unfold fractionPart
    split
    next r heq =>
      -- The point would be the first character of the exponent or of what follows the number.
      exfalso
      unfold Numeral.exponentChars at heq
      split at heq
      · rw [List.nil_append] at heq
        exact (hrest '.' (by rw [heq]; rfl)).2.1 rfl
      · cases heq
    next => rfl
  next hfraction =>
    simp only [List.cons_append, fractionPart, hn.fraction_digits.takeWhile_append hstops,
      hn.fraction_digits.dropWhile_append hstops, if_neg hfraction]

theorem exponentPart_numeral (hn : n.WellFormed) (hrest : Numeral.Ends rest) :
    exponentPart (n.exponentChars ++ rest) = (n.exponentChars, rest) := by
  unfold Numeral.exponentChars
  split
  next =>
    rw [List.nil_append]
    cases rest with
    | nil => rfl
    | cons c rest =>
        obtain ⟨-, -, hlower, hupper⟩ := hrest c rfl
        simp [exponentPart, hlower, hupper]
  next negative ds hexponent =>
    obtain ⟨hne, hdigits⟩ := hn.exponent_digits negative ds hexponent
    have hstops := Numeral.stops_of_ends hrest
    have htake := hdigits.takeWhile_append hstops
    have hdrop := hdigits.dropWhile_append hstops
    cases negative <;> simp [exponentPart, htake, hdrop, hne]

theorem scanNumber_numeral (hn : n.WellFormed) (hfloat : n.fraction ≠ [] ∨ n.exponent.isSome)
    (hrest : Numeral.Ends rest) (negative : Bool) :
    scanNumber negative (n.chars ++ rest) =
      (.atom (.float (n.decimal.toFloat negative)), rest) := by
  have hwhole := wholePart_numeral hn (Numeral.stops_fractionChars (n := n) hrest)
  have hfraction := fractionPart_numeral hn hrest
  have hexponent := exponentPart_numeral hn hrest
  have hread := Decimal.readUnsigned_numeral hn
  unfold Numeral.chars at hread ⊢
  -- With neither part the digits would be read as an integer.
  have hparts : ¬ ((n.fractionChars = [] ∧ n.exponentChars = [])) := by
    rintro ⟨hnone, hzero⟩
    rcases hfloat with hsome | hsome
    · simp [Numeral.fractionChars, hsome] at hnone
    · obtain ⟨e, he⟩ := Option.isSome_iff_exists.mp hsome
      simp [Numeral.exponentChars, he] at hzero
  simp only [scanNumber, List.append_assoc, hwhole, hfraction, hexponent, Bool.and_eq_true,
    decide_eq_true_eq, if_neg hparts]
  rw [← List.append_assoc, hread]

end Json
end Fiducial
