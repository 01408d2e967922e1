import PocketCalc.Decimal.Shortest
import PocketCalc.Proofs.Binary64.Rounding

/-! # The interval that rounds to a number

Every quotient in the rounding interval of a magnitude rounds to it. Above the magnitude, and below
it as long as no power of two lies between, quotients are rounded on the grid of the magnitude
itself. Below a power of two the grid is twice as fine, and so the interval is half as wide there.

* **`exists_significand`** — a representable magnitude as 53 bits on its grid.
* **`roundUnits_eq`** — rounding on a grid that is known.
* **`Magnitude.interval_cases`** — the two forms of a rounding interval.
* **`Binary64.ofRatio_of_contains`** — quotients of the interval round to the magnitude. -/

namespace PocketCalc

-- Powers are those of the core library, also where another instance of `Pow` is known. For that, a
-- numeral in an exponent has its type written.
attribute [local instance (high)] instPowNat

/-! ## Grids -/

/-- The spacing is known where the leading bit is, or where there are no more than 53 bits. -/
theorem spacing_eq {units shift : Nat} (lower : shift = 0 ∨ 2 ^ (52 : Nat) * 2 ^ shift ≤ units)
    (upper : units < 2 ^ (53 : Nat) * 2 ^ shift) : spacing units = 2 ^ shift := by
  rw [← Nat.pow_add] at lower upper
  have bits : units.log2 - 52 = shift := by
    rcases Nat.eq_zero_or_pos units with rfl | positive
    · rcases lower with rfl | high
      · rfl
      · exact absurd high (Nat.not_le.mpr (Nat.two_pow_pos _))
    · have nonzero := Nat.ne_of_gt positive
      have most := (Nat.log2_lt nonzero).mpr upper
      rcases lower with rfl | high
      · omega
      · have least := (Nat.le_log2 nonzero).mpr high
        omega
  rw [spacing, bits]

/-- **A representable magnitude is a significand of 53 bits on a grid**; on every grid but the
finest the leading bit is set. -/
theorem exists_significand {units : Nat} (aligned : spacing units ∣ units) :
    ∃ significand shift : Nat, units = significand * 2 ^ shift ∧ units.log2 - 52 = shift ∧
      significand < 2 ^ (53 : Nat) ∧ (shift = 0 ∨ 2 ^ (52 : Nat) ≤ significand) := by
  have count := Nat.div_mul_cancel aligned
  refine ⟨units / spacing units, units.log2 - 52, count.symm, rfl, div_spacing_lt units, ?_⟩
  rcases Nat.eq_zero_or_pos (units.log2 - 52) with none | some_bits
  · exact .inl none
  · right
    have nonzero : units ≠ 0 := by
      rintro rfl
      exact absurd some_bits (by decide)
    rw [Nat.le_div_iff_mul_le (spacing_pos units), spacing, ← Nat.pow_add,
      Nat.add_sub_cancel' (by omega)]
    exact Nat.log2_self_le nonzero

/-! ## Rounding -/

/-- The whole number that is at most half the denominator away is the nearest; an exact half goes to
the even one. -/
theorem nearestEven_eq {numerator denominator whole : Nat} (positive : 0 < denominator)
    (below : 2 * (whole * denominator) ≤ 2 * numerator + denominator)
    (above : 2 * numerator ≤ 2 * (whole * denominator) + denominator)
    (odd : whole % 2 = 1 → 2 * (whole * denominator) < 2 * numerator + denominator ∧
      2 * numerator < 2 * (whole * denominator) + denominator) :
    nearestEven numerator denominator = whole := by
  have split := Nat.div_add_mod numerator denominator
  have remainder_lt := Nat.mod_lt numerator positive
  rw [Nat.mul_comm] at split
  -- the whole part is `whole` or one less
  have least : numerator / denominator < whole + 1 := by
    rw [Nat.div_lt_iff_lt_mul positive, Nat.succ_mul]
    omega
  have most : whole < numerator / denominator + 2 := by
    apply Nat.lt_of_mul_lt_mul_right (a := denominator)
    rw [Nat.add_mul]
    omega
  unfold nearestEven
  dsimp only
  rcases Nat.lt_or_eq_of_le (Nat.le_of_lt_succ least) with less | same
  · obtain rfl : whole = numerator / denominator + 1 := by omega
    have next : (numerator / denominator + 1) * denominator =
        numerator / denominator * denominator + denominator := Nat.succ_mul _ _
    rw [if_neg (by omega)]
    split
    · rfl
    · -- an exact half, so the whole part is odd and rounding goes up
      have even : ¬ (numerator / denominator + 1) % 2 = 1 := fun isOdd => by
        have strict := odd isOdd
        omega
      omega
  · rw [same] at split ⊢
    split
    · rfl
    · -- an exact half, so the whole part is even and stays
      have even : ¬ whole % 2 = 1 := fun isOdd => by
        have strict := odd isOdd
        omega
      rw [if_neg (by omega)]
      omega

/-- **Rounding on a known grid**: a quotient at most half a step away from a point of the grid
rounds to it; an exact half must be an even point. -/
theorem roundUnits_eq {numerator denominator significand shift : Nat} (positive : 0 < denominator)
    (grid : spacing (numerator / denominator) = 2 ^ shift)
    (below : 2 * (significand * (2 ^ shift * denominator)) ≤
      2 * numerator + 2 ^ shift * denominator)
    (above : 2 * numerator ≤
      2 * (significand * (2 ^ shift * denominator)) + 2 ^ shift * denominator)
    (odd : significand % 2 = 1 →
      2 * (significand * (2 ^ shift * denominator)) < 2 * numerator + 2 ^ shift * denominator ∧
      2 * numerator < 2 * (significand * (2 ^ shift * denominator)) + 2 ^ shift * denominator) :
    roundUnits numerator denominator = significand * 2 ^ shift := by
  have step_pos : 0 < 2 ^ shift * denominator := Nat.mul_pos (Nat.two_pow_pos _) positive
  rw [roundUnits, grid, Nat.mul_comm denominator, nearestEven_eq step_pos below above odd]

/-- **The grid of a quotient near a magnitude** is that of the magnitude, where no power of two lies
between. -/
theorem spacing_div_eq {numerator denominator significand shift : Nat} (positive : 0 < denominator)
    (bits : significand < 2 ^ (53 : Nat))
    (lower : shift = 0 ∨ 2 ^ (52 : Nat) * (2 ^ shift * denominator) ≤ numerator)
    (above : 2 * numerator ≤
      2 * (significand * (2 ^ shift * denominator)) + 2 ^ shift * denominator) :
    spacing (numerator / denominator) = 2 ^ shift := by
  have step_pos : 0 < 2 ^ shift * denominator := Nat.mul_pos (Nat.two_pow_pos _) positive
  have next : (significand + 1) * (2 ^ shift * denominator) ≤
      2 ^ (53 : Nat) * (2 ^ shift * denominator) := Nat.mul_le_mul_right _ bits
  rw [Nat.succ_mul] at next
  apply spacing_eq
  · rw [Nat.le_div_iff_mul_le positive, Nat.mul_assoc]
    exact lower
  · rw [Nat.div_lt_iff_lt_mul positive, Nat.mul_assoc]
    omega

/-! ## The interval -/

/-- The bounds of an interval; where it is open they do not belong to it. -/
theorem RoundingInterval.bounds_of_contains {interval : RoundingInterval}
    {numerator denominator : Nat} (inside : interval.contains numerator denominator = true) :
    (interval.lower * denominator ≤ numerator ∧ numerator ≤ interval.upper * denominator) ∧
      (interval.closed = false →
        interval.lower * denominator < numerator ∧ numerator < interval.upper * denominator) := by
  unfold contains at inside
  split at inside
  · rename_i closed
    simp only [Bool.and_eq_true, decide_eq_true_eq] at inside
    exact ⟨inside, fun isOpen => absurd closed (by simp [isOpen])⟩
  · simp only [Bool.and_eq_true, decide_eq_true_eq] at inside
    exact ⟨⟨Nat.le_of_lt inside.1, Nat.le_of_lt inside.2⟩, fun _ => inside⟩

/-- **The two forms of a rounding interval.** It reaches half a step of the grid to both sides,
except for powers of two that are not on the finest grid: there it reaches a quarter of a step
down. -/
theorem Magnitude.interval_cases (magnitude : Magnitude) :
    ∃ significand shift : Nat, magnitude.units = significand * 2 ^ shift ∧
      significand < 2 ^ (53 : Nat) ∧
      magnitude.interval.closed = (significand % 2 == 0) ∧
      magnitude.interval.upper = 4 * (significand * 2 ^ shift) + 2 * 2 ^ shift ∧
      ((magnitude.interval.lower = 4 * (significand * 2 ^ shift) - 2 * 2 ^ shift ∧
          (shift = 0 ∨ 2 ^ (52 : Nat) < significand)) ∨
        ∃ finer : Nat, shift = finer + 1 ∧ significand = 2 ^ (52 : Nat) ∧
          magnitude.interval.lower = 4 * (significand * 2 ^ shift) - 2 * 2 ^ finer) := by
  obtain ⟨significand, shift, units, leadingBit, bits, leading⟩ :=
    exists_significand magnitude.aligned
  have grid : spacing magnitude.units = 2 ^ shift := by rw [spacing, leadingBit]
  have count : magnitude.units / spacing magnitude.units = significand := by
    rw [grid, units, Nat.mul_div_cancel _ (Nat.two_pow_pos _)]
  refine ⟨significand, shift, units, bits, ?_, ?_, ?_⟩
  · rw [interval, count]
  · rw [interval, grid, units]
  have lower (gapBelow : Nat) (same : (if magnitude.units = 2 ^ magnitude.units.log2
      then (2 ^ shift + 1) / 2 else 2 ^ shift) = gapBelow) :
      magnitude.interval.lower = 4 * (significand * 2 ^ shift) - 2 * gapBelow := by
    rw [interval, grid, same, units]
  cases shift with
  | zero => exact .inl ⟨lower _ (by split <;> rfl), .inl rfl⟩
  | succ finer =>
    have full : 2 ^ (52 : Nat) ≤ significand := leading.resolve_left (Nat.succ_ne_zero finer)
    have log : magnitude.units.log2 = 52 + (finer + 1) := by omega
    rw [log] at lower
    rcases Nat.eq_or_lt_of_le full with power | more
    · -- a power of two, where half a step of the finer grid is enough
      refine .inr ⟨finer, rfl, power.symm, lower _ ?_⟩
      have half : (2 ^ (finer + 1) + 1) / 2 = 2 ^ finer := by
        rw [Nat.pow_succ]
        omega
      rw [if_pos (by rw [units, ← power, Nat.pow_add 2 52]), half]
    · refine .inl ⟨lower _ (if_neg fun power => ?_), .inr more⟩
      rw [units, Nat.pow_add 2 52] at power
      exact Nat.ne_of_gt more (Nat.eq_of_mul_eq_mul_right (Nat.two_pow_pos _) power)

/-- **Every quotient of its rounding interval rounds to the magnitude.** -/
theorem Magnitude.roundUnits_of_contains {magnitude : Magnitude} {numerator denominator : Nat}
    (positive : 0 < denominator)
    (inside : magnitude.interval.contains (4 * numerator) denominator = true) :
    roundUnits numerator denominator = magnitude.units := by
  obtain ⟨significand, shift, units, bits, closed, upper, lower⟩ := magnitude.interval_cases
  obtain ⟨⟨below, above⟩, strict⟩ := RoundingInterval.bounds_of_contains inside
  have step_pos : 0 < 2 ^ shift * denominator := Nat.mul_pos (Nat.two_pow_pos _) positive
  have odd : significand % 2 = 1 → magnitude.interval.closed = false := by
    intro isOdd
    rw [closed, isOdd]
    rfl
  -- both bounds in steps of the grid
  rw [upper, Nat.add_mul, Nat.mul_assoc, Nat.mul_assoc significand, Nat.mul_assoc] at above strict
  rw [units]
  rcases lower with ⟨lower, leading⟩ | ⟨finer, rfl, rfl, lower⟩
  · rw [lower, Nat.sub_mul, Nat.mul_assoc, Nat.mul_assoc significand, Nat.mul_assoc] at below strict
    have reached : shift = 0 ∨ 2 ^ (52 : Nat) * (2 ^ shift * denominator) ≤ numerator := by
      refine leading.imp_right fun more => ?_
      have next := Nat.mul_le_mul_right (2 ^ shift * denominator) more
      rw [Nat.succ_mul] at next
      omega
    have grid := spacing_div_eq positive bits reached (by omega)
    refine roundUnits_eq positive grid (by omega) (by omega) fun isOdd => ?_
    have between := strict (odd isOdd)
    omega
  · rw [lower, Nat.sub_mul, Nat.mul_assoc, Nat.mul_assoc (2 ^ (52 : Nat)), Nat.mul_assoc] at below
    have coarse : 2 ^ (finer + 1) * denominator = 2 * (2 ^ finer * denominator) := by
      rw [Nat.pow_succ', Nat.mul_assoc]
    by_cases reached : 2 ^ (52 : Nat) * (2 ^ (finer + 1) * denominator) ≤ numerator
    · have grid := spacing_div_eq positive bits (.inr reached) (by omega)
      exact roundUnits_eq positive grid (by omega) (by omega) fun isOdd => absurd isOdd (by decide)
    · -- below the power of two the grid is twice as fine, and the power is an even point of it
      have grid : spacing (numerator / denominator) = 2 ^ finer := by
        apply spacing_eq
        · rw [Nat.le_div_iff_mul_le positive, Nat.mul_assoc]
          omega
        · rw [Nat.div_lt_iff_lt_mul positive, Nat.mul_assoc]
          omega
      have twice : 2 ^ (52 : Nat) * 2 ^ (finer + 1) = 2 ^ (53 : Nat) * 2 ^ finer := by
        rw [← Nat.pow_add, ← Nat.pow_add]
        congr 1
        omega
      rw [twice]
      exact roundUnits_eq positive grid (by omega) (by omega) fun isOdd => absurd isOdd (by decide)

/-- The number nearest to a quotient of the interval is the one with that magnitude. -/
theorem Binary64.ofRatio_of_contains (negative : Bool) {magnitude : Magnitude}
    {numerator denominator : Nat} (positive : 0 < denominator)
    (inside : magnitude.interval.contains (4 * numerator) denominator = true) :
    ofRatio negative numerator denominator = finite negative magnitude := by
  have rounded := Magnitude.roundUnits_of_contains positive inside
  have bounded : roundUnits numerator denominator < unitsLimit := by
    rw [rounded]
    exact magnitude.bounded
  rw [ofRatio, Magnitude.nearest?, dif_pos bounded]
  simp only [rounded]

end PocketCalc
