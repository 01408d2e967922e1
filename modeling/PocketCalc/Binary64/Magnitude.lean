/-! # Magnitudes of binary64 numbers

Every finite binary64 number is a whole multiple of the smallest positive one, `2 ^ -1074`. A
magnitude is therefore held exactly, as its number of such *units*, and arithmetic on magnitudes
is arithmetic on natural numbers followed by one rounding.

* **`spacing`** — the distance between neighbouring representable magnitudes: 53 significant bits.
* **`nearestEven`** — the whole number nearest to a quotient, an exact half going to the even one.
* **`roundUnits`** — the representable number of units nearest to a quotient.
* **`spacing_dvd_roundUnits`** — what `roundUnits` returns is representable. -/

namespace PocketCalc

-- Powers are those of the core library, also where another instance of `Pow` is known. For that, a
-- numeral in an exponent has its type written.
attribute [local instance (high)] instPowNat

/-- The smallest positive magnitude, the unit, is two to the minus this exponent. -/
@[irreducible] def unitExponent : Nat := 1074

/-- The value of the exponent. -/
theorem unitExponent_eq : unitExponent = 1074 := by
  rw [unitExponent]

/-- The number of units in one. -/
def unitsPerOne : Nat := 2 ^ unitExponent

/-- One has units. -/
theorem unitsPerOne_pos : 0 < unitsPerOne := Nat.two_pow_pos _

/-- The least number of units that is too large for a finite number: those of `2 ^ 1024`. -/
def unitsLimit : Nat := 2 ^ (1024 + unitExponent)

/-- Some magnitude is small enough. -/
theorem unitsLimit_pos : 0 < unitsLimit := Nat.two_pow_pos _

/-- The distance between neighbouring representable magnitudes around `units`. Below 53 bits every
number of units is representable; above, 53 leading bits are kept. -/
def spacing (units : Nat) : Nat := 2 ^ (units.log2 - 52)

/-- A spacing is never zero. -/
theorem spacing_pos (units : Nat) : 0 < spacing units := Nat.two_pow_pos _

/-- **The magnitude of a finite binary64 number**, counted in units of `2 ^ -1074`. -/
structure Magnitude where
  /-- How many units the magnitude has. -/
  units : Nat
  /-- At most 53 significant bits are in use. -/
  aligned : spacing units ∣ units
  /-- The magnitude is below `2 ^ 1024`. -/
  bounded : units < unitsLimit
  deriving DecidableEq

/-! ## Rounding a quotient -/

/-- The whole number nearest to `numerator / denominator`; of two equally near, the even one. -/
def nearestEven (numerator denominator : Nat) : Nat :=
  let quotient := numerator / denominator
  let remainder := numerator % denominator
  if 2 * remainder < denominator then quotient
  else if denominator < 2 * remainder then quotient + 1
  else quotient + quotient % 2

/-- Rounding goes up by at most one. -/
theorem nearestEven_le (numerator denominator : Nat) :
    nearestEven numerator denominator ≤ numerator / denominator + 1 := by
  unfold nearestEven
  dsimp only
  split
  · omega
  · split <;> omega

/-- A quotient without remainder is not changed by rounding. -/
theorem nearestEven_mul_left (whole : Nat) {denominator : Nat} (positive : 0 < denominator) :
    nearestEven (whole * denominator) denominator = whole := by
  simp [nearestEven, Nat.mul_div_cancel _ positive, positive]

/-- **The representable number of units nearest to a quotient**; of two equally near, the one with
an even last bit. -/
def roundUnits (numerator denominator : Nat) : Nat :=
  let gap := spacing (numerator / denominator)
  nearestEven numerator (denominator * gap) * gap

/-- The whole part of a quotient, counted in its own spacing, has at most 53 bits. -/
theorem div_spacing_lt (units : Nat) : units / spacing units < 2 ^ (53 : Nat) := by
  rw [Nat.div_lt_iff_lt_mul (spacing_pos units)]
  refine Nat.lt_of_lt_of_le Nat.lt_log2_self ?_
  rw [spacing, ← Nat.pow_add]
  exact Nat.pow_le_pow_right (by decide) (by omega)

/-- A number of at most 53 bits, shifted left, is representable. -/
theorem spacing_dvd_shifted {significand : Nat} (small : significand ≤ 2 ^ (53 : Nat))
    (shift : Nat) : spacing (significand * 2 ^ shift) ∣ significand * 2 ^ shift := by
  rcases Nat.eq_zero_or_pos significand with rfl | positive
  · simp
  · rcases Nat.lt_or_eq_of_le small with below | rfl
    · refine Nat.dvd_trans (Nat.pow_dvd_pow 2 ?_) (Nat.dvd_mul_left (2 ^ shift) significand)
      have nonzero : significand * 2 ^ shift ≠ 0 :=
        Nat.mul_ne_zero (by omega) (Nat.pos_iff_ne_zero.mp (Nat.two_pow_pos shift))
      have shifted : (significand * 2 ^ shift).log2 < 53 + shift := by
        rw [Nat.log2_lt nonzero, Nat.pow_add]
        exact Nat.mul_lt_mul_of_pos_right below (Nat.two_pow_pos shift)
      omega
    · rw [spacing, ← Nat.pow_add, Nat.log2_two_pow]
      exact Nat.pow_dvd_pow 2 (by omega)

/-- What rounding returns is representable. -/
theorem spacing_dvd_roundUnits (numerator denominator : Nat) :
    spacing (roundUnits numerator denominator) ∣ roundUnits numerator denominator := by
  refine spacing_dvd_shifted (Nat.le_trans (nearestEven_le _ _) ?_) _
  rw [← Nat.div_div_eq_div_mul]
  exact div_spacing_lt (numerator / denominator)

/-- A representable number of units is left alone by rounding. -/
theorem roundUnits_of_dvd {units : Nat} (aligned : spacing units ∣ units) :
    roundUnits units 1 = units := by
  obtain ⟨count, split⟩ := aligned
  have whole : nearestEven units (spacing units) = count := by
    conv => lhs; arg 1; rw [split, Nat.mul_comm]
    exact nearestEven_mul_left count (spacing_pos units)
  rw [roundUnits]
  simp only [Nat.div_one, Nat.one_mul]
  rw [whole, Nat.mul_comm]
  exact split.symm

namespace Magnitude

/-- The magnitude of zero. -/
def zero : Magnitude where
  units := 0
  aligned := Nat.dvd_zero _
  bounded := unitsLimit_pos

/-- The magnitude nearest to `numerator / denominator` units, if it is not too large. -/
def nearest? (numerator denominator : Nat) : Option Magnitude :=
  if bounded : roundUnits numerator denominator < unitsLimit then
    some ⟨roundUnits numerator denominator, spacing_dvd_roundUnits numerator denominator, bounded⟩
  else none

/-- Rounding a magnitude gives it back. -/
theorem nearest?_units (magnitude : Magnitude) : nearest? magnitude.units 1 = some magnitude := by
  have same := roundUnits_of_dvd magnitude.aligned
  unfold nearest?
  split
  · simp only [same]
  · next large => exact absurd (by rw [same]; exact magnitude.bounded) large

end Magnitude

end PocketCalc
