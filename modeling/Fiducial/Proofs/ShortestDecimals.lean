import Fiducial.Proofs.NearestDoubles

/-!
# The shortest digits of a double

A double is written with the fewest digits that lie in the interval of the numbers that round to it.
They are looked for on finer and finer grids of decimals, and at the latest the grid of seventeen
digits has a point there: its steps are smaller than a quarter of the last place, so its point below
the double is close enough.  Whatever is written with the value that was found is read back as the
same double.
-/

namespace Fiducial

open Double (IsCanonical)

namespace Decimal

/-- The number that a decimal stands for. -/
def value (d : Decimal) : ℚ := d.digits * 10 ^ d.exponent

theorem pow_length_le {n : ℕ} (hn : 0 < n) : 10 ^ (length n - 1) ≤ n := by
  by_contra hless
  have hpos : 0 < length n := Nat.length_toDigits_pos
  by_cases hone : length n = 1
  · rw [hone] at hless
    omega
  · have hle : length n ≤ length n - 1 :=
      (Nat.length_toDigits_le_iff (by decide) (by omega)).mpr (not_le.mp hless)
    omega

theorem lt_pow_length (n : ℕ) : n < 10 ^ length n :=
  (Nat.length_toDigits_le_iff (by decide) Nat.length_toDigits_pos).mp le_rfl

theorem ratio_pos (n : ℕ) (k : ℤ) : 0 < (ratio n k).2 := by
  unfold ratio
  split
  · exact Nat.one_pos
  · exact Nat.pow_pos (by decide)

theorem magnitude_eq {num den : ℕ} (hnum : 0 < num) (hden : 0 < den) :
    magnitude num den = Int.log 10 ((num : ℚ) / den) := by
  have hnumLength : length num - 1 + 1 = length num :=
    Nat.sub_add_cancel Nat.length_toDigits_pos
  have hdenLength : length den - 1 + 1 = length den :=
    Nat.sub_add_cancel Nat.length_toDigits_pos
  have hlog := log_div (by decide) (pow_length_le hnum) (hnumLength ▸ lt_pow_length num)
    (pow_length_le hden) (hdenLength ▸ lt_pow_length den)
  let guess : ℤ := (length num : ℤ) - (length den : ℤ)
  have hguess : ((length num - 1 : ℕ) : ℤ) - ((length den - 1 : ℕ) : ℤ) = guess := by omega
  rw [hguess] at hlog
  have hbound : ((ratio den guess).1 : ℚ) / (ratio den guess).2 = den * (10 : ℚ) ^ guess :=
    ratio_value den guess
  have hdecides := mul_lt_iff_div_lt num hden (ratio_pos _ _) hbound
  change (if num * (ratio den guess).2 < (ratio den guess).1 then guess - 1 else guess) = _
  rw [hlog]
  simp only [hdecides, Nat.cast_ofNat]

theorem value_stripZeros (fuel : ℕ) (d : Decimal) : (stripZeros fuel d).value = d.value := by
  induction fuel generalizing d with
  | zero => rfl
  | succ fuel ih =>
      rw [stripZeros]
      split
      next hzero =>
        rw [ih]
        have hdigits : ((d.digits / 10 : ℕ) : ℚ) * 10 = d.digits := by
          exact_mod_cast Nat.div_mul_cancel (Nat.dvd_of_mod_eq_zero hzero.2)
        rw [value, value, zpow_add_one₀ (by norm_num), ← hdigits]
        ring
      next => rfl

theorem value_normalize (d : Decimal) : d.normalize.value = d.value := value_stripZeros _ d

namespace Interval

theorem contains_iff_of_steps (i : Interval) {q : ℤ} {num den : ℕ} (hden : 0 < den) {r : ℚ}
    (hr : (num : ℚ) / den = r / 2 ^ (q - 2)) : i.contains num den = true ↔ i.Holds q r := by
  have hden' : (0 : ℚ) < den := by exact_mod_cast hden
  have hpow : (0 : ℚ) < 2 ^ (q - 2) := by positivity
  have hle (a : ℕ) : a * den ≤ num ↔ (a : ℚ) * 2 ^ (q - 2) ≤ r := by
    rw [← le_div_iff₀ hpow, ← hr, le_div_iff₀ hden']
    exact_mod_cast Iff.rfl
  have hge (a : ℕ) : num ≤ a * den ↔ r ≤ (a : ℚ) * 2 ^ (q - 2) := by
    rw [← div_le_iff₀ hpow, ← hr, div_le_iff₀ hden']
    exact_mod_cast Iff.rfl
  unfold contains Holds
  cases i.closed with
  | true => simp [hle, hge]
  | false =>
      simp only [Bool.false_eq_true, if_false, Bool.and_eq_true, decide_eq_true_eq, false_or,
        ← not_le, hle, hge]
      constructor
      · exact fun ⟨hlow, hhigh⟩ => ⟨(not_le.mp hlow).le, (not_le.mp hhigh).le, hlow, hhigh⟩
      · exact fun ⟨_, _, hlow, hhigh⟩ => ⟨hlow, hhigh⟩

/-- The point of a grid, over the steps of an interval. -/
theorem point_steps (c : ℕ) (k q : ℤ) :
    0 < (ratio 1 k).2 * (Binary.ratio 1 (q - 2)).1 ∧
      ((c * (ratio 1 k).1 * (Binary.ratio 1 (q - 2)).2 : ℕ) : ℚ) /
          ((ratio 1 k).2 * (Binary.ratio 1 (q - 2)).1 : ℕ) = c * 10 ^ k / 2 ^ (q - 2) := by
  have hgrid := ratio_value 1 k
  have hsteps := Binary.ratio_value 1 (q - 2)
  have hgridPos : (0 : ℚ) < (ratio 1 k).2 := by exact_mod_cast ratio_pos 1 k
  have hstepsPos : (0 : ℚ) < (Binary.ratio 1 (q - 2)).2 := by
    exact_mod_cast Binary.ratio_pos 1 (q - 2)
  have hpow : (0 : ℚ) < 2 ^ (q - 2) := by positivity
  rw [Nat.cast_one, one_mul, div_eq_iff hgridPos.ne'] at hgrid
  rw [Nat.cast_one, one_mul, div_eq_iff hstepsPos.ne'] at hsteps
  have hnum : (0 : ℚ) < (Binary.ratio 1 (q - 2)).1 := by
    rw [hsteps]
    positivity
  refine ⟨Nat.mul_pos (ratio_pos 1 k) (by exact_mod_cast hnum), ?_⟩
  push_cast
  rw [hgrid, hsteps]
  field_simp

/-- Whether a grid has a point in the interval is told by the point below the value and the next. -/
theorem contains_point (i : Interval) (q k : ℤ) (c : ℕ) :
    i.contains (c * (ratio 1 k).1 * (Binary.ratio 1 (q - 2)).2)
        ((ratio 1 k).2 * (Binary.ratio 1 (q - 2)).1) = true ↔ i.Holds q (c * 10 ^ k) :=
  have ⟨hpos, hpoint⟩ := point_steps c k q
  i.contains_iff_of_steps hpos hpoint

/-- The point of a grid below the value of an interval. -/
def floor (i : Interval) (q k : ℤ) : ℕ :=
  (Binary.ratio i.value (q - 2)).1 * (ratio 1 k).2 /
    ((Binary.ratio i.value (q - 2)).2 * (ratio 1 k).1)

theorem floor_eq (i : Interval) (q k : ℤ) :
    i.floor q k = ⌊(i.value : ℚ) * 2 ^ (q - 2) / 10 ^ k⌋₊ := by
  have hgrid := ratio_value 1 k
  have hvalue := Binary.ratio_value i.value (q - 2)
  have hquotient : (i.value : ℚ) * 2 ^ (q - 2) / 10 ^ k =
      (((Binary.ratio i.value (q - 2)).1 * (ratio 1 k).2 : ℕ) : ℚ) /
        ((Binary.ratio i.value (q - 2)).2 * (ratio 1 k).1 : ℕ) := by
    rw [← hvalue, ← one_mul ((10 : ℚ) ^ k), ← Nat.cast_one, ← hgrid]
    push_cast
    rw [div_div_div_eq]
  rw [hquotient, Nat.floor_div_eq_div]
  rfl

/-- What is found on a grid is a point of the interval. -/
theorem holds_of_onGrid {i : Interval} {q k : ℤ} {d : Decimal} (hd : i.onGrid q k = some d) :
    i.Holds q d.value := by
  have hpoint (c : ℕ) := i.contains_point q k c
  simp only [onGrid] at hd
  split at hd
  next hboth =>
    obtain ⟨hbelow, habove⟩ := Bool.and_eq_true_iff.mp hboth
    split at hd
    · cases hd
      exact (hpoint _).mp hbelow
    · cases hd
      exact (hpoint _).mp habove
  next =>
    split at hd
    next hbelow =>
      cases hd
      exact (hpoint _).mp hbelow
    next =>
      split at hd
      next habove =>
        cases hd
        exact (hpoint _).mp habove
      next => cases hd

theorem onGrid_isSome {i : Interval} {q k : ℤ}
    (hbelow : i.Holds q ((i.floor q k : ℕ) * 10 ^ k)) : (i.onGrid q k).isSome = true := by
  have hinside := (i.contains_point q k _).mpr hbelow
  unfold floor at hinside
  simp only [onGrid, hinside, Bool.true_and, if_true]
  split
  · split <;> rfl
  · rfl

/-- A search that comes to a grid with a point in the interval finds one. -/
theorem holds_search {i : Interval} {q : ℤ} (count : ℕ) (k : ℤ)
    (hlast : (i.onGrid q (k - count)).isSome = true) : i.Holds q (search i q count k).value := by
  induction count generalizing k with
  | zero =>
      rw [Nat.cast_zero, sub_zero] at hlast
      obtain ⟨d, hd⟩ := Option.isSome_iff_exists.mp hlast
      rw [search, hd]
      exact holds_of_onGrid hd
  | succ count ih =>
      rw [search]
      cases hgrid : i.onGrid q k with
      | some d => exact holds_of_onGrid hgrid
      | none =>
          refine ih (k - 1) ?_
          rwa [Nat.cast_add, Nat.cast_one, ← sub_sub, sub_right_comm] at hlast

end Interval

section Shortest

variable {m : ℕ} {q : ℤ}

/-- The value of a double is inside its interval, by a quarter of a step at least. -/
theorem around_inside (hm : 0 < m) (q : ℤ) :
    (Interval.around m q).low + 1 ≤ (Interval.around m q).value ∧
      (Interval.around m q).value < (Interval.around m q).high := by
  constructor
  · rw [around_low]
    simp only [Interval.around]
    split <;> omega
  · simp [Interval.around]

/-- Of a mantissa of 53 digits, seventeen decimal digits are less than a quarter of a step. -/
theorem pow_lt_quarter (hlt : m < 2 ^ 53) {k : ℤ} (hk : (10 : ℚ) ^ (k + 17) ≤ m * 2 ^ q) :
    (10 : ℚ) ^ k < 2 ^ (q - 2) := by
  have hunit : (0 : ℚ) < 2 ^ (q - 2) := by positivity
  have hsmall : (10 : ℚ) ^ k * 10 ^ 17 ≤ 2 ^ (q - 2) * 2 ^ 55 := by
    calc (10 : ℚ) ^ k * 10 ^ 17 = 10 ^ (k + 17) := by
          rw [zpow_add₀ (by norm_num)]
          norm_cast
      _ ≤ m * 2 ^ q := hk
      _ ≤ 2 ^ 53 * 2 ^ q := by
          gcongr
          exact_mod_cast hlt.le
      _ = 2 ^ (q - 2) * 2 ^ 55 := by
          rw [zpow_sub₀ (by norm_num)]
          norm_num
          ring
  nlinarith

/-- Seventeen digits are fine enough: the grid has its point below the value in the interval. -/
theorem holds_floor (hm : 0 < m) (hlt : m < 2 ^ 53) {k : ℤ}
    (hk : (10 : ℚ) ^ (k + 17) ≤ m * 2 ^ q) :
    (Interval.around m q).Holds q (((Interval.around m q).floor q k : ℕ) * 10 ^ k) := by
  obtain ⟨hnatLow, hnatHigh⟩ := around_inside hm q
  have hten : (0 : ℚ) < 10 ^ k := by positivity
  have hstep := pow_lt_quarter hlt hk
  have hbelow := Nat.floor_le (a := ((Interval.around m q).value : ℚ) * 2 ^ (q - 2) / 10 ^ k)
    (by positivity)
  have habove := Nat.lt_floor_add_one
    (((Interval.around m q).value : ℚ) * 2 ^ (q - 2) / 10 ^ k)
  rw [← Interval.floor_eq, le_div_iff₀ hten] at hbelow
  rw [← Interval.floor_eq, div_lt_iff₀ hten] at habove
  have hlow : ((Interval.around m q).low : ℚ) + 1 ≤ (Interval.around m q).value := by
    exact_mod_cast hnatLow
  have hhigh : ((Interval.around m q).value : ℚ) < (Interval.around m q).high := by
    exact_mod_cast hnatHigh
  have hstrictLow : ((Interval.around m q).low : ℚ) * 2 ^ (q - 2) <
      ((Interval.around m q).floor q k : ℚ) * 10 ^ k := by
    nlinarith
  have hstrictHigh : ((Interval.around m q).floor q k : ℚ) * 10 ^ k <
      ((Interval.around m q).high : ℚ) * 2 ^ (q - 2) := by
    nlinarith
  exact ⟨hstrictLow.le, hstrictHigh.le, .inr ⟨hstrictLow, hstrictHigh⟩⟩

/-- A fraction that is not zero has a numerator that is not zero. -/
theorem num_pos_of_div {num den : ℕ} (hr : (0 : ℚ) < (num : ℚ) / den) : 0 < num := by
  by_contra hzero
  rw [Nat.eq_zero_of_not_pos hzero, Nat.cast_zero, zero_div] at hr
  exact lt_irrefl _ hr

/-- The digits that are found for a double are read as that double. -/
theorem holds_shortest (hm : 0 < m) (hlt : m < 2 ^ 53) :
    (Interval.around m q).Holds q (shortest m q).value := by
  have hpos : (0 : ℚ) < m * 2 ^ q := by positivity
  have hratio := Binary.ratio_value m q
  have hden := Binary.ratio_pos m q
  have hnum : 0 < (Binary.ratio m q).1 := num_pos_of_div (hratio ▸ hpos)
  have hmagnitude : magnitude (Binary.ratio m q).1 (Binary.ratio m q).2 =
      Int.log 10 ((m : ℚ) * 2 ^ q) := by
    rw [magnitude_eq hnum hden, hratio]
  have hlast : (10 : ℚ) ^ (Int.log 10 ((m : ℚ) * 2 ^ q) - (17 : ℕ) + 17) ≤ m * 2 ^ q := by
    rw [Nat.cast_ofNat, sub_add_cancel]
    exact_mod_cast Int.zpow_log_le_self (b := 10) (by decide) hpos
  have hfound := Interval.holds_search 17 (Int.log 10 ((m : ℚ) * 2 ^ q))
    (Interval.onGrid_isSome (holds_floor hm hlt hlast))
  have hshortest : shortest m q = normalize (search (Interval.around m q) q 17
      (magnitude (Binary.ratio m q).1 (Binary.ratio m q).2)) := if_neg hm.ne'
  rw [hshortest, value_normalize, hmagnitude]
  exact hfound

end Shortest

/-! ## Decimals read as doubles -/

/-- Numbers near a double have their first digit between the bounds of what is looked at. -/
theorem top_of_bounds {d : Decimal} (hpos : 0 < d.digits) (hlow : (10 : ℚ) ^ (-401 : ℤ) ≤ d.value)
    (hhigh : d.value < (10 : ℚ) ^ (400 : ℤ)) :
    -400 ≤ (length d.digits : ℤ) + d.exponent ∧ (length d.digits : ℤ) + d.exponent ≤ 400 := by
  have hone : (1 : ℚ) < 10 := by norm_num
  have hpow : (0 : ℚ) < 10 ^ d.exponent := by positivity
  have hlength : 0 < length d.digits := Nat.length_toDigits_pos
  have habove : (10 : ℚ) ^ ((length d.digits : ℤ) - 1 + d.exponent) ≤ d.value := by
    rw [zpow_add₀ (by norm_num), value]
    gcongr
    have hdigits := pow_length_le hpos
    have hcast : ((length d.digits : ℤ) - 1) = ((length d.digits - 1 : ℕ) : ℤ) := by omega
    rw [hcast]
    exact_mod_cast hdigits
  have hbelow : d.value < (10 : ℚ) ^ ((length d.digits : ℤ) + d.exponent) := by
    rw [zpow_add₀ (by norm_num), value]
    gcongr
    exact_mod_cast lt_pow_length d.digits
  have hleast := (zpow_lt_zpow_iff_right₀ hone).mp (hlow.trans_lt hbelow)
  have hmost := (zpow_lt_zpow_iff_right₀ hone).mp (habove.trans_lt hhigh)
  omega

theorem two_pow_le {j k : ℕ} (hjk : j ≤ 3 * k) : 2 ^ j ≤ 10 ^ k := by
  calc 2 ^ j ≤ 2 ^ (3 * k) := Nat.pow_le_pow_right (by decide) hjk
    _ = 8 ^ k := pow_mul 2 3 k
    _ ≤ 10 ^ k := Nat.pow_le_pow_left (by decide) k

variable {m : ℕ} {q : ℤ}

theorem Interval.Holds.bounds {r : ℚ} (hr : (Interval.around m q).Holds q r) (hm : 0 < m)
    (hcanonical : IsCanonical m q) (hmost : q ≤ 971) :
    (10 : ℚ) ^ (-401 : ℤ) ≤ r ∧ r < (10 : ℚ) ^ (400 : ℤ) := by
  obtain ⟨hlow, hhigh, -⟩ := hr
  constructor
  · calc (10 : ℚ) ^ (-401 : ℤ) ≤ 2 ^ (-1075 : ℤ) := by
          rw [zpow_neg, zpow_neg]
          gcongr
          exact_mod_cast two_pow_le (by decide : 1075 ≤ 3 * 401)
      _ ≤ 2 * 2 ^ (q - 2) := by
          rw [← zpow_one_add₀ (by norm_num)]
          exact zpow_le_zpow_right₀ (by norm_num) (by have := hcanonical.exponent_ge; omega)
      _ ≤ (Interval.around m q).low * 2 ^ (q - 2) := by
          gcongr
          have hle : 2 ≤ (Interval.around m q).low := by
            rw [around_low]
            split <;> omega
          exact_mod_cast hle
      _ ≤ r := hlow
  · calc r ≤ (Interval.around m q).high * 2 ^ (q - 2) := hhigh
      _ ≤ 2 ^ 55 * 2 ^ (969 : ℤ) := by
          gcongr
          · have hle : (Interval.around m q).high ≤ 2 ^ 55 := by
              have hlt := hcanonical.mantissa_lt
              simp only [Interval.around]
              omega
            exact_mod_cast hle
          · norm_num
          · omega
      _ = 2 ^ (1024 : ℤ) := by
          rw [← zpow_natCast, ← zpow_add₀ (by norm_num)]
          norm_num
      _ ≤ 10 ^ (342 : ℤ) := by exact_mod_cast two_pow_le (by decide : 1024 ≤ 3 * 342)
      _ < (10 : ℚ) ^ (400 : ℤ) := zpow_lt_zpow_right₀ (by norm_num) (by decide)

/-- A decimal in the interval of a double is read as that double. -/
theorem toFloat_eq {x : Float} {negative : Bool} (hdecode : Binary.decode x = .finite negative m q)
    (hm : 0 < m) {d : Decimal} (hd : (Interval.around m q).Holds q d.value) :
    d.toFloat negative = x := by
  obtain ⟨hcanonical, hmost, -⟩ := Binary.decoded_of_decode hdecode
  obtain ⟨hlow, hhigh⟩ := hd.bounds hm hcanonical hmost
  have hvalue : 0 < d.value := lt_of_lt_of_le (by positivity) hlow
  have hpos : 0 < d.digits := by
    by_contra hzero
    rw [value, Nat.eq_zero_of_not_pos hzero, Nat.cast_zero, zero_mul] at hvalue
    exact lt_irrefl _ hvalue
  obtain ⟨hleast, hmost'⟩ := top_of_bounds hpos hlow hhigh
  have hratio : ((ratio d.digits d.exponent).1 : ℚ) / (ratio d.digits d.exponent).2 = d.value :=
    ratio_value d.digits d.exponent
  have hden := ratio_pos d.digits d.exponent
  have hnum : 0 < (ratio d.digits d.exponent).1 := num_pos_of_div (hratio ▸ hvalue)
  unfold toFloat
  rw [if_neg hpos.ne', if_neg (by omega), if_neg (by omega)]
  exact Binary.ofRatio_eq hdecode hm hnum hden (hratio ▸ hd)

/-- Whatever has the value of the shortest digits of a double is read as that double. -/
theorem toFloat_eq_of_value {x : Float} {negative : Bool}
    (hdecode : Binary.decode x = .finite negative m q) {d : Decimal}
    (hd : d.value = (shortest m q).value) : d.toFloat negative = x := by
  by_cases hm : m = 0
  · subst hm
    have hzero : d.digits = 0 := by
      have hvalue : (shortest 0 q).value = 0 := by simp [shortest, value]
      rw [hvalue, value] at hd
      have hpow : (0 : ℚ) < 10 ^ d.exponent := by positivity
      exact_mod_cast (mul_eq_zero.mp hd).resolve_right hpow.ne'
    unfold toFloat
    rw [if_pos hzero]
    exact Binary.ofRatio_zero hdecode
  · have hpos := Nat.pos_of_ne_zero hm
    obtain ⟨hcanonical, -, -⟩ := Binary.decoded_of_decode hdecode
    exact toFloat_eq hdecode hpos (hd ▸ holds_shortest hpos hcanonical.mantissa_lt)

end Decimal
end Fiducial
