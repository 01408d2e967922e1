/-! # Decimal numbers

A decimal number is a whole significand and a power of ten. The two number printers of the
calculator choose one for a quotient (`Decimal.Significant`, `Decimal.Shortest`) and lay out its
digits. Quotients are pairs of natural numbers, so every comparison here is exact.

* **`decimalExponent_spec`** — the exponent `e` of a quotient is the one with
  `10 ^ e ≤ numerator / denominator < 10 ^ (e + 1)`.
* **`Decimal.positional`** — the digits of a decimal number with a point and without an exponent. -/

namespace PocketCalc

-- Powers are those of the core library, also where another instance of `Pow` is known.
attribute [local instance (high)] instPowNat

/-- The decimal digits of a natural number, without leading zeros. -/
def digits (value : Nat) : List Char := Nat.toDigits 10 value

/-- The decimal exponent of the first digit of `numerator / denominator`: how many digits its whole
part has after the first, or how many places after the point its first digit stands. -/
def decimalExponent (numerator denominator : Nat) : Int :=
  if denominator ≤ numerator then ((digits (numerator / denominator)).length : Int) - 1
  else -((digits ((denominator - 1) / numerator)).length : Int)

/-- A positive number lies between the powers of ten that its number of digits gives. -/
theorem digits_length_bounds {value : Nat} (positive : 0 < value) :
    10 ^ ((digits value).length - 1) ≤ value ∧ value < 10 ^ (digits value).length := by
  have count_pos : 0 < (digits value).length := Nat.length_toDigits_pos
  constructor
  · rcases Nat.eq_or_lt_of_le (show 1 ≤ (digits value).length from count_pos) with single | several
    · rw [← single]
      exact positive
    · refine Nat.le_of_not_lt fun tooSmall => ?_
      have short : (digits value).length ≤ (digits value).length - 1 :=
        (Nat.length_toDigits_le_iff (by decide) (by omega)).mpr tooSmall
      omega
  · exact (Nat.length_toDigits_le_iff (by decide) count_pos).mp (Nat.le_refl _)

/-- **The exponent is the right one**, said without negative powers: the quotient is at least
`10 ^ e` and below `10 ^ (e + 1)`, both sides scaled by the power that makes them whole. -/
theorem decimalExponent_spec {numerator denominator : Nat} (numerator_pos : 0 < numerator)
    (denominator_pos : 0 < denominator) :
    (0 ≤ decimalExponent numerator denominator ∧
      denominator * 10 ^ (decimalExponent numerator denominator).toNat ≤ numerator ∧
      numerator < denominator * 10 ^ ((decimalExponent numerator denominator).toNat + 1)) ∨
    (decimalExponent numerator denominator < 0 ∧
      denominator ≤ numerator * 10 ^ (-decimalExponent numerator denominator).toNat ∧
      numerator * 10 ^ ((-decimalExponent numerator denominator).toNat - 1) < denominator) := by
  unfold decimalExponent
  split
  · next large =>
    left
    have whole_pos : 0 < numerator / denominator := Nat.div_pos large denominator_pos
    obtain ⟨lower, upper⟩ := digits_length_bounds whole_pos
    have count_pos : 0 < (digits (numerator / denominator)).length := Nat.length_toDigits_pos
    generalize (digits (numerator / denominator)).length = count at *
    have exponent : ((count : Int) - 1).toNat = count - 1 := by omega
    rw [exponent, show count - 1 + 1 = count by omega]
    refine ⟨by omega, ?_, ?_⟩
    · rw [Nat.mul_comm]
      exact (Nat.le_div_iff_mul_le denominator_pos).mp lower
    · rw [Nat.mul_comm]
      exact (Nat.div_lt_iff_lt_mul denominator_pos).mp upper
  · next small =>
    right
    have below_pos : 0 < (denominator - 1) / numerator := Nat.div_pos (by omega) numerator_pos
    obtain ⟨lower, upper⟩ := digits_length_bounds below_pos
    have count_pos : 0 < (digits ((denominator - 1) / numerator)).length := Nat.length_toDigits_pos
    generalize (digits ((denominator - 1) / numerator)).length = count at *
    rw [show (-(-(count : Int))).toNat = count by omega]
    refine ⟨by omega, ?_, ?_⟩
    · have := (Nat.div_lt_iff_lt_mul numerator_pos).mp upper
      rw [Nat.mul_comm]
      omega
    · have := (Nat.le_div_iff_mul_le numerator_pos).mp lower
      rw [Nat.mul_comm]
      omega

/-- **A decimal number**: the significand times ten to the exponent. -/
structure Decimal where
  /-- The digits of the number, as a natural number. -/
  significand : Nat
  /-- The power of ten that the last digit stands for. -/
  exponent : Int
  deriving DecidableEq, Repr

namespace Decimal

/-- The digits of a decimal number with a point where it falls, zeros where they are needed, and no
exponent; a whole number has no point. -/
def positional (decimal : Decimal) : List Char :=
  let shown := digits decimal.significand
  if 0 ≤ decimal.exponent then shown ++ List.replicate decimal.exponent.toNat '0'
  else
    let places := (-decimal.exponent).toNat
    if shown.length ≤ places then
      '0' :: '.' :: (List.replicate (places - shown.length) '0' ++ shown)
    else shown.take (shown.length - places) ++ '.' :: shown.drop (shown.length - places)

end Decimal

end PocketCalc
