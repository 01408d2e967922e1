import PocketCalc.Proofs.Binary64.Rounding
import PocketCalc.Proofs.Decimal.Significant

/-! # Reading twelve digits back

A number of twelve digits with its point anywhere from a millionth to a billion is read as the
nearest binary64 number, and that number rounds to the same twelve digits. Reading changes the
number by at most a `2 ^ 53`-th part, which is far less than half a unit of the twelfth digit. Only
a power of ten can be missed by a digit: where the nearest number lies just below it, the first
digit stands one place further to the right, and rounding carries through twelve nines.

* **`decimalExponent_eq`** — the exponent can be told from the quotient scaled by a power of ten.
* **`roundSignificant_eq`** — so can the digits.
* **`exists_magnitude_of_twelve_digits`** — twelve digits are read back. -/

namespace PocketCalc

-- Powers are those of the core library, also where another instance of `Pow` is known. For that, a
-- numeral in an exponent has its type written.
attribute [local instance (high)] instPowNat

/-! ## Rounding to significant digits -/

/-- A quotient less than half away from a whole number rounds to it. -/
theorem roundHalfUp_eq {numerator denominator whole : Nat}
    (above : 2 * (whole * denominator) ≤ 2 * numerator + denominator)
    (below : 2 * numerator < 2 * (whole * denominator) + denominator) :
    roundHalfUp numerator denominator = whole := by
  have next : (whole + 1) * (2 * denominator) = 2 * (whole * denominator) + 2 * denominator := by
    rw [Nat.succ_mul, Nat.mul_left_comm]
  refine Nat.div_eq_of_lt_le ?_ ?_
  · rw [Nat.mul_left_comm]
    exact above
  · rw [next]
    omega

/-- Where one power of ten lifts a number to a bound and another does not lift it to ten times the
bound, the other is not the larger one. -/
theorem exponent_le_of_scaled {numerator bound first second : Nat}
    (reached : bound ≤ numerator * 10 ^ first) (missed : numerator * 10 ^ second < 10 * bound) :
    second ≤ first := by
  apply Nat.le_of_not_lt
  intro larger
  have lifted : 10 * bound ≤ numerator * 10 ^ second := by
    calc 10 * bound
        _ ≤ 10 * (numerator * 10 ^ first) := Nat.mul_le_mul_left _ reached
        _ = numerator * 10 ^ (first + 1) := by rw [Nat.pow_succ, Nat.mul_comm, Nat.mul_assoc]
        _ ≤ numerator * 10 ^ second :=
          Nat.mul_le_mul_left _ (Nat.pow_le_pow_right (by decide) larger)
  exact absurd missed (Nat.not_lt.mpr lifted)

/-- **The exponent of a quotient** is the one that scales it to `count` digits before the point. -/
theorem decimalExponent_eq {count numerator denominator places : Nat} (some_digit : 0 < count)
    (numerator_pos : 0 < numerator) (denominator_pos : 0 < denominator)
    (lower : 10 ^ (count - 1) * denominator ≤ numerator * 10 ^ places)
    (upper : numerator * 10 ^ places < 10 ^ count * denominator) :
    decimalExponent numerator denominator = (count : Int) - 1 - places := by
  have scaled := scaled_bounds some_digit numerator_pos denominator_pos
  dsimp only at scaled
  generalize decimalExponent numerator denominator = exponent at scaled ⊢
  have next : 10 ^ count * denominator = 10 * (10 ^ (count - 1) * denominator) := by
    rw [← Nat.mul_assoc, ← Nat.pow_succ', Nat.succ_eq_add_one, Nat.sub_add_cancel some_digit]
  rw [next] at upper
  split at scaled
  · rw [next] at scaled
    have not_more := exponent_le_of_scaled scaled.1 upper
    have not_less := exponent_le_of_scaled lower scaled.2
    omega
  · -- with a negative scale the quotient is too large without any scaling
    rename_i negative
    have factor : 10 ^ (1 : Nat) ≤ 10 ^ (-((count : Int) - 1 - exponent)).toNat :=
      Nat.pow_le_pow_right (by decide) (by omega)
    have large : 10 * (10 ^ (count - 1) * denominator) ≤ numerator * 10 ^ places := by
      calc 10 * (10 ^ (count - 1) * denominator)
          _ = 10 ^ (count - 1) * (denominator * 10 ^ (1 : Nat)) := by
            rw [Nat.mul_left_comm, Nat.mul_comm 10, Nat.pow_one]
          _ ≤ 10 ^ (count - 1) * (denominator * 10 ^ (-((count : Int) - 1 - exponent)).toNat) :=
            Nat.mul_le_mul_left _ (Nat.mul_le_mul_left _ factor)
          _ ≤ numerator := scaled.1
          _ ≤ numerator * 10 ^ places := Nat.le_mul_of_pos_right _ (Nat.pow_pos (by decide))
    exact absurd upper (Nat.not_lt.mpr large)

/-- **The digits of a quotient** that is scaled to `count` digits before the point are those of the
whole number less than half away; they may carry. -/
theorem roundSignificant_eq {count numerator denominator : Nat} (places whole : Nat)
    (some_digit : 0 < count) (numerator_pos : 0 < numerator) (denominator_pos : 0 < denominator)
    (lower : 10 ^ (count - 1) * denominator ≤ numerator * 10 ^ places)
    (upper : numerator * 10 ^ places < 10 ^ count * denominator)
    (above : 2 * (whole * denominator) ≤ 2 * (numerator * 10 ^ places) + denominator)
    (below : 2 * (numerator * 10 ^ places) < 2 * (whole * denominator) + denominator) :
    roundSignificant count numerator denominator =
      if whole = 10 ^ count then ⟨10 ^ (count - 1), (count : Int) - places⟩
      else ⟨whole, (count : Int) - 1 - places⟩ := by
  have exponent := decimalExponent_eq some_digit numerator_pos denominator_pos lower upper
  have scale : (count : Int) - 1 - ((count : Int) - 1 - places) = (places : Int) := by omega
  have carried : (count : Int) - 1 - places + 1 = (count : Int) - places := by omega
  simp only [roundSignificant, exponent, scale, Int.natCast_nonneg, if_true, Int.toNat_natCast,
    roundHalfUp_eq above below, carried]

/-! ## Twelve digits -/

/-- A positive decimal number of at most seventeen places has far more than 53 bits of units. -/
theorem decimal_units_large {significand places : Nat} (positive : 0 < significand)
    (near : places ≤ 17) : 2 ^ (52 : Nat) * 10 ^ places ≤ significand * unitsPerOne := by
  have power : 10 ^ places ≤ 10 ^ (17 : Nat) := Nat.pow_le_pow_right (by decide) near
  have one : 2 ^ (52 : Nat) * 10 ^ (17 : Nat) ≤ unitsPerOne := by
    rw [unitsPerOne, unitExponent_eq]
    decide +kernel
  calc 2 ^ (52 : Nat) * 10 ^ places
      _ ≤ 2 ^ (52 : Nat) * 10 ^ (17 : Nat) := Nat.mul_le_mul_left _ power
      _ ≤ unitsPerOne := one
      _ ≤ significand * unitsPerOne := Nat.le_mul_of_pos_left _ positive

/-- A magnitude within a `2 ^ 53`-th part of a number of twelve digits has these digits. -/
theorem Magnitude.rounded_of_near {magnitude : Magnitude} {significand places : Nat}
    (lower : 10 ^ (11 : Nat) ≤ significand) (upper : significand < 10 ^ (12 : Nat))
    (positive : 0 < magnitude.units)
    (down : 2 ^ (53 : Nat) * (significand * unitsPerOne) ≤
      2 ^ (53 : Nat) * (magnitude.units * 10 ^ places) + significand * unitsPerOne)
    (up : 2 ^ (53 : Nat) * (magnitude.units * 10 ^ places) ≤
      2 ^ (53 : Nat) * (significand * unitsPerOne) + significand * unitsPerOne) :
    magnitude.rounded = ⟨significand, (11 : Int) - places⟩ := by
  have some_digit : 0 < 12 := by decide
  have one_pos := unitsPerOne_pos
  have twelve : magnitude.rounded = roundSignificant 12 magnitude.units unitsPerOne := rfl
  rw [twelve]
  have most : (significand + 1) * unitsPerOne ≤ 10 ^ (12 : Nat) * unitsPerOne :=
    Nat.mul_le_mul_right _ upper
  rw [Nat.succ_mul] at most
  by_cases reached : 10 ^ (11 : Nat) * unitsPerOne ≤ magnitude.units * 10 ^ places
  · have within : magnitude.units * 10 ^ places < 10 ^ (12 : Nat) * unitsPerOne := by omega
    rw [roundSignificant_eq places significand some_digit positive one_pos reached within
      (by omega) (by omega), if_neg (Nat.ne_of_lt upper)]
    rfl
  · -- only the least number of twelve digits can be missed, and rounding carries back to it
    have least : significand = 10 ^ (11 : Nat) := by
      apply Nat.le_antisymm _ lower
      apply Nat.le_of_lt_succ
      apply Nat.lt_of_mul_lt_mul_right (a := unitsPerOne)
      rw [Nat.succ_mul]
      omega
    have next : magnitude.units * 10 ^ (places + 1) = magnitude.units * 10 ^ places * 10 := by
      rw [Nat.pow_succ, Nat.mul_assoc]
    have exponent : ((12 : Nat) : Int) - (places + 1 : Nat) = (11 : Int) - places := by omega
    rw [least] at down up
    rw [roundSignificant_eq (places + 1) (10 ^ (12 : Nat)) some_digit positive one_pos
      (by rw [next]; omega) (by rw [next]; omega) (by rw [next]; omega)
      (by rw [next]; omega), if_pos rfl, exponent, least]

/-- **Twelve digits are read back**: the number that they are read as has them again. -/
theorem exists_magnitude_of_twelve_digits {significand : Nat} (places : Nat)
    (lower : 10 ^ (11 : Nat) ≤ significand) (upper : significand < 10 ^ (12 : Nat))
    (near : places ≤ 17) :
    ∃ magnitude, Binary64.ofDecimal significand places = .finite false magnitude ∧
      0 < magnitude.units ∧ magnitude.rounded = ⟨significand, (11 : Int) - places⟩ := by
  have power_pos : 0 < 10 ^ places := Nat.pow_pos (by decide)
  have large := decimal_units_large (Nat.lt_of_lt_of_le (by decide) lower) near
  obtain ⟨down, up⟩ := roundUnits_error power_pos large
  have least : 10 ^ (11 : Nat) * unitsPerOne ≤ significand * unitsPerOne :=
    Nat.mul_le_mul_right _ lower
  have most : significand * unitsPerOne < 10 ^ (12 : Nat) * unitsPerOne :=
    Nat.mul_lt_mul_of_pos_right upper unitsPerOne_pos
  have bounded : roundUnits (significand * unitsPerOne) (10 ^ places) < unitsLimit := by
    have scaled := Nat.le_mul_of_pos_right (roundUnits (significand * unitsPerOne) (10 ^ places))
      power_pos
    have room : 41 + unitExponent ≤ 1024 + unitExponent := Nat.add_le_add_right (by decide) _
    calc roundUnits (significand * unitsPerOne) (10 ^ places)
        _ < 2 ^ (41 : Nat) * unitsPerOne := by omega
        _ = 2 ^ (41 + unitExponent) := (Nat.pow_add 2 41 unitExponent).symm
        _ ≤ unitsLimit := Nat.pow_le_pow_right (by decide) room
  have positive : 0 < roundUnits (significand * unitsPerOne) (10 ^ places) := by
    apply Nat.pos_of_ne_zero
    intro nothing
    have one_pos := unitsPerOne_pos
    rw [nothing] at down
    omega
  refine ⟨⟨_, spacing_dvd_roundUnits _ _, bounded⟩, ?_, positive,
    Magnitude.rounded_of_near lower upper positive down up⟩
  rw [Binary64.ofDecimal, Binary64.ofRatio, Magnitude.nearest?, dif_pos bounded]

end PocketCalc
