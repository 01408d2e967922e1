import PocketCalc.Binary64.Basic

/-! # Rounding to binary64 numbers

Rounding depends on the quotient alone, not on the fraction that stands for it. Where magnitudes
have all their 53 bits, it changes a quotient by at most a `2 ^ 53`-th part.

* **`roundUnits_scale`**, **`Binary64.ofDecimal_scale`** — a common factor, or a zero at the end of
  a decimal number, makes no difference.
* **`roundUnits_error`** — what rounding adds or takes off.
* **`Binary64.negOne_mul`** — minus one times a number is its opposite. -/

namespace PocketCalc

-- Powers are those of the core library, also where another instance of `Pow` is known. For that, a
-- numeral in an exponent has its type written.
attribute [local instance (high)] instPowNat

/-! ## Quotients -/

/-- The nearest whole number does not depend on a common factor. -/
theorem nearestEven_scale (numerator denominator : Nat) {factor : Nat} (positive : 0 < factor) :
    nearestEven (numerator * factor) (denominator * factor) =
      nearestEven numerator denominator := by
  have twice : 2 * (numerator % denominator * factor) = 2 * (numerator % denominator) * factor :=
    (Nat.mul_assoc _ _ _).symm
  unfold nearestEven
  simp only [Nat.mul_div_mul_right _ _ positive, Nat.mul_mod_mul_right, twice,
    Nat.mul_lt_mul_right positive]

/-- **Rounding does not depend on a common factor.** -/
theorem roundUnits_scale (numerator denominator : Nat) {factor : Nat} (positive : 0 < factor) :
    roundUnits (numerator * factor) (denominator * factor) = roundUnits numerator denominator := by
  unfold roundUnits
  simp only [Nat.mul_div_mul_right _ _ positive]
  rw [Nat.mul_right_comm, nearestEven_scale _ _ positive]

/-- The nearest whole number is at most half the denominator away, in both directions. -/
theorem nearestEven_error (numerator : Nat) {denominator : Nat} (positive : 0 < denominator) :
    2 * numerator ≤ 2 * (nearestEven numerator denominator * denominator) + denominator ∧
      2 * (nearestEven numerator denominator * denominator) ≤ 2 * numerator + denominator := by
  have split := Nat.div_add_mod numerator denominator
  have remainder_lt := Nat.mod_lt numerator positive
  rw [Nat.mul_comm] at split
  have next : (numerator / denominator + 1) * denominator =
      numerator / denominator * denominator + denominator := Nat.succ_mul _ _
  unfold nearestEven
  dsimp only
  split
  · omega
  split
  · omega
  · -- an exact half, so either neighbour is half the denominator away
    rcases Nat.mod_two_eq_zero_or_one (numerator / denominator) with even | odd
    · rw [even, Nat.add_zero]
      omega
    · rw [odd]
      omega

/-- Where there are at least 53 bits, the spacing is at most a `2 ^ 52`-th part of the quotient. -/
theorem spacing_mul_le {numerator denominator : Nat} (positive : 0 < denominator)
    (large : 2 ^ (52 : Nat) * denominator ≤ numerator) :
    2 ^ (52 : Nat) * (denominator * spacing (numerator / denominator)) ≤ numerator := by
  have whole : 2 ^ (52 : Nat) ≤ numerator / denominator :=
    (Nat.le_div_iff_mul_le positive).mpr large
  have nonzero : numerator / denominator ≠ 0 :=
    Nat.ne_of_gt (Nat.lt_of_lt_of_le (Nat.two_pow_pos 52) whole)
  have bits : 52 ≤ (numerator / denominator).log2 := (Nat.le_log2 nonzero).mpr whole
  have leading : 2 ^ (52 : Nat) * spacing (numerator / denominator) ≤ numerator / denominator := by
    rw [spacing, ← Nat.pow_add, Nat.add_sub_cancel' bits]
    exact Nat.log2_self_le nonzero
  calc 2 ^ (52 : Nat) * (denominator * spacing (numerator / denominator))
      _ = 2 ^ (52 : Nat) * spacing (numerator / denominator) * denominator := by
        rw [Nat.mul_comm denominator, Nat.mul_assoc]
      _ ≤ numerator / denominator * denominator := Nat.mul_le_mul_right _ leading
      _ ≤ numerator := Nat.div_mul_le_self _ _

/-- **What rounding adds or takes off** is at most a `2 ^ 53`-th part of the quotient. -/
theorem roundUnits_error {numerator denominator : Nat} (positive : 0 < denominator)
    (large : 2 ^ (52 : Nat) * denominator ≤ numerator) :
    2 ^ (53 : Nat) * numerator ≤
        2 ^ (53 : Nat) * (roundUnits numerator denominator * denominator) + numerator ∧
      2 ^ (53 : Nat) * (roundUnits numerator denominator * denominator) ≤
        2 ^ (53 : Nat) * numerator + numerator := by
  have gap := spacing_mul_le positive large
  have gap_pos : 0 < denominator * spacing (numerator / denominator) :=
    Nat.mul_pos positive (spacing_pos _)
  obtain ⟨below, above⟩ := nearestEven_error numerator gap_pos
  have rounded : roundUnits numerator denominator * denominator =
      nearestEven numerator (denominator * spacing (numerator / denominator)) *
        (denominator * spacing (numerator / denominator)) := by
    rw [roundUnits, Nat.mul_assoc, Nat.mul_comm (spacing _)]
  rw [rounded]
  omega

/-! ## Numbers -/

/-- The magnitude of one. -/
def Magnitude.one : Magnitude where
  units := unitsPerOne
  aligned := by
    have shifted := spacing_dvd_shifted (Nat.one_le_two_pow (n := 53)) unitExponent
    rwa [Nat.one_mul] at shifted
  bounded := by
    have longer : unitExponent < 1024 + unitExponent := Nat.lt_add_of_pos_left (by decide)
    rw [unitsPerOne, unitsLimit]
    exact Nat.pow_lt_pow_right (by decide) longer

namespace Binary64

/-- A common factor makes no difference to the nearest number. -/
theorem ofRatio_scale (negative : Bool) (numerator denominator : Nat) {factor : Nat}
    (positive : 0 < factor) :
    ofRatio negative (numerator * factor) (denominator * factor) =
      ofRatio negative numerator denominator := by
  unfold ofRatio Magnitude.nearest?
  simp only [roundUnits_scale _ _ positive]

/-- A zero at the end of a decimal number makes no difference. -/
theorem ofDecimal_scale (significand places zeros : Nat) :
    ofDecimal (significand * 10 ^ zeros) (places + zeros) = ofDecimal significand places := by
  have positive : 0 < 10 ^ zeros := Nat.pow_pos (by decide)
  rw [ofDecimal, Nat.pow_add, Nat.mul_right_comm, ofRatio_scale _ _ _ positive, ofDecimal]

/-- The numeral of zero names zero exactly. -/
theorem ofDecimal_zero : ofDecimal 0 0 = finite false Magnitude.zero := by
  rw [ofDecimal, Nat.zero_mul, Nat.pow_zero]
  exact ofRatio_units false Magnitude.zero

/-- The numeral of one names one exactly. -/
theorem ofDecimal_one : ofDecimal 1 0 = finite false Magnitude.one := by
  have exact := ofRatio_units false Magnitude.one
  rw [ofDecimal, Nat.one_mul, Nat.pow_zero]
  exact exact

/-- One times a number is the number. -/
theorem one_mul (x : Binary64) : ofDecimal 1 0 * x = x := by
  rw [ofDecimal_one]
  change mul (finite false Magnitude.one) x = x
  have units : Magnitude.one.units = unitsPerOne := rfl
  cases x with
  | finite negative magnitude =>
    -- the units of one are a common factor of the product
    have cancelled := ofRatio_scale negative magnitude.units 1 unitsPerOne_pos
    rw [Nat.one_mul, Nat.mul_comm, ofRatio_units] at cancelled
    rw [mul, units, Bool.false_bne, cancelled]
  | infinite negative =>
    rw [mul, units, if_neg (Nat.ne_of_gt unitsPerOne_pos), Bool.false_bne]
  | nan => rfl

/-- **Minus one times a number is its opposite.** -/
theorem negOne_mul (x : Binary64) : -ofDecimal 1 0 * x = -x := by
  rw [neg_mul, one_mul]

end Binary64

end PocketCalc
