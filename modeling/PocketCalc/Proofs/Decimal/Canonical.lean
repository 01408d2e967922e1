import Mathlib.Data.Int.Log
import PocketCalc.Proofs.Decimal.Form
import PocketCalc.Proofs.Decimal.Value

/-! # Result texts are canonical

The text of a result is the only one for its number: two results are written alike exactly if they
round to the same decimal number of twelve significant digits. Which of the two forms a text has is
told by the rounded number, since its exponent is that of its first digit; a value that nines carry
over a threshold is written as the number that it is rounded to.

* **`twelveDigits`** — rounding a rational number to twelve significant digits.
* **`Scientific.log_value`** — the exponent of a number of twelve digits.
* **`decimalNumber?_eq_twelveDigits`** — a result text denotes the rounded value.
* **`IsCanonical`** — what the text of a number looks like.
* **`resultText_canonical`** — result texts are canonical. -/

namespace PocketCalc

-- Powers are those of the core library, also where another instance of `Pow` is known.
attribute [local instance (high)] instPowNat

/-! ## Twelve significant digits -/

/-- **A number rounded to twelve significant digits**: without its sign, it is scaled to twelve
digits before the point, rounded to a whole number, an exact half going up, and scaled back. With
the sign, an exact half goes away from zero. -/
def twelveDigits (x : ℚ) : ℚ :=
  SignType.sign x * round (|x| * 10 ^ (11 - Int.log 10 |x|)) * 10 ^ (Int.log 10 |x| - 11)

/-- An exact half goes away from zero. -/
example : twelveDigits (-200000000001 / 2) = -100000000001 := by decide +kernel

/-- Zero has no digits to round. -/
theorem twelveDigits_zero : twelveDigits 0 = 0 := by
  simp [twelveDigits]

/-- The logarithm of a number between two powers of ten. -/
theorem log_eq_of_bounds {x : ℚ} {exponent : ℤ} (lower : 10 ^ exponent ≤ x)
    (upper : x < 10 ^ (exponent + 1)) : Int.log 10 x = exponent := by
  have ten : 1 < 10 := by decide
  have positive : 0 < x := lt_of_lt_of_le (by positivity) lower
  have least : exponent ≤ Int.log 10 x :=
    (Int.zpow_le_iff_le_log ten positive).mp (by exact_mod_cast lower)
  have most : Int.log 10 x < exponent + 1 :=
    (Int.lt_zpow_iff_log_lt ten positive).mp (by exact_mod_cast upper)
  omega

/-- **Rounding a value other than zero** is rounding its magnitude. -/
theorem twelveDigits_exactValue (negative : Bool) {magnitude : Magnitude}
    (positive : 0 < magnitude.units) : twelveDigits (exactValue negative magnitude) =
      (if negative then -1 else 1) * magnitude.rounded.value := by
  obtain ⟨lower, upper⟩ := decimalExponent_bounds positive unitsPerOne_pos
  rw [twelveDigits, sign_exactValue negative positive, abs_exactValue,
    log_eq_of_bounds lower upper, Magnitude.rounded_value, mul_assoc]
  cases negative <;> simp

/-- Only zero has the value zero. -/
theorem exactValue_eq_zero_iff {negative : Bool} {magnitude : Magnitude} :
    exactValue negative magnitude = 0 ↔ magnitude.units = 0 := by
  have one : (unitsPerOne : ℚ) ≠ 0 := Nat.cast_ne_zero.mpr (Nat.ne_of_gt unitsPerOne_pos)
  rw [← abs_eq_zero, abs_exactValue, div_eq_zero_iff, or_iff_left one, Nat.cast_eq_zero]

/-! ## Numbers of twelve digits -/

namespace Scientific

section Value

variable {number : Scientific}
  (significand : 10 ^ (11 : Nat) ≤ number.significand ∧ number.significand < 10 ^ (12 : Nat))

include significand

/-- A number of twelve digits lies between two powers of ten. -/
theorem value_bounds :
    10 ^ number.exponent ≤ number.value ∧ number.value < 10 ^ (number.exponent + 1) := by
  have scale : (0 : ℚ) < 10 ^ (number.exponent - 11) := by positivity
  have first : (10 : ℚ) ^ number.exponent = 10 ^ (11 : ℕ) * 10 ^ (number.exponent - 11) := by
    rw [← zpow_natCast, ← zpow_add₀ (by decide)]
    congr 1
    omega
  have next : (10 : ℚ) ^ (number.exponent + 1) = 10 ^ (12 : ℕ) * 10 ^ (number.exponent - 11) := by
    rw [← zpow_natCast, ← zpow_add₀ (by decide)]
    congr 1
    omega
  have shown : number.value = number.significand * 10 ^ (number.exponent - 11) := rfl
  rw [shown, first, next, mul_le_mul_iff_of_pos_right scale, mul_lt_mul_iff_of_pos_right scale]
  exact_mod_cast significand

/-- A number of twelve digits is positive. -/
theorem value_pos : 0 < number.value :=
  lt_of_lt_of_le (by positivity) (value_bounds significand).1

/-- **The exponent of a number of twelve digits** can be told from its value. -/
theorem log_value : Int.log 10 number.value = number.exponent :=
  log_eq_of_bounds (value_bounds significand).1 (value_bounds significand).2

/-- **The form of the text** can be told from it, too. -/
theorem isExponential_iff : number.isExponential = true ↔
    number.value < 10 ^ (-6 : ℤ) ∨ 10 ^ (12 : ℕ) ≤ number.value := by
  have ten : 1 < 10 := by decide
  have positive := value_pos significand
  have small : number.value < 10 ^ (-6 : ℤ) ↔ number.exponent < -6 := by
    rw [← log_value significand, ← Int.lt_zpow_iff_log_lt ten positive]
    rfl
  have large : 10 ^ (12 : ℕ) ≤ number.value ↔ 12 ≤ number.exponent := by
    rw [← log_value significand, ← Int.zpow_le_iff_le_log ten positive]
    rfl
  rw [small, large, isExponential_eq, Bool.or_eq_true, decide_eq_true_eq, decide_eq_true_eq]
  rfl

/-- A text with a sign or not denotes the number with that sign. -/
theorem decimalNumber?_signed (negative : Bool) :
    decimalNumber? (if negative then '-' :: number.text else number.text) =
      some ((if negative then -1 else 1) * number.value) := by
  have read := unsigned?_text significand
  cases negative with
  | false => simpa using decimalNumber?_of_unsigned? read
  | true => simp [decimalNumber?, read]

end Value

/-- **Numbers of twelve digits are equal if their values are.** -/
theorem eq_of_value_eq {number other : Scientific}
    (significand : 10 ^ (11 : Nat) ≤ number.significand ∧ number.significand < 10 ^ (12 : Nat))
    (otherSignificand : 10 ^ (11 : Nat) ≤ other.significand ∧ other.significand < 10 ^ (12 : Nat))
    (same : number.value = other.value) : number = other := by
  have exponents : number.exponent = other.exponent := by
    rw [← log_value significand, same, log_value otherSignificand]
  have scale : (10 : ℚ) ^ (other.exponent - ((resultDigits : ℤ) - 1)) ≠ 0 :=
    zpow_ne_zero _ (by decide)
  rw [value, value, exponents] at same
  have significands : number.significand = other.significand :=
    Nat.cast_injective (mul_right_cancel₀ scale same)
  obtain ⟨_, _⟩ := number
  obtain rfl : _ = other.significand := significands
  obtain rfl : _ = other.exponent := exponents
  rfl

end Scientific

/-! ## Result texts -/

/-- Zero denotes zero. -/
theorem decimalNumber?_zero : decimalNumber? ['0'] = some 0 := by
  simp [decimalNumber?, unsigned?, fraction?, natural?, Nat.ofDigitChars_cons]

/-- With a sign it does, too. -/
theorem decimalNumber?_minus_zero : decimalNumber? ['-', '0'] = some 0 := by
  simp [decimalNumber?, unsigned?, fraction?, natural?, Nat.ofDigitChars_cons]

section Texts

variable (negative : Bool) {magnitude : Magnitude}

/-- The magnitude of a rounded value is a number of twelve digits. -/
theorem abs_twelveDigits_exactValue (positive : 0 < magnitude.units) :
    |twelveDigits (exactValue negative magnitude)| = magnitude.rounded.value := by
  have value := Scientific.value_pos (Magnitude.rounded_bounds positive).1
  rw [twelveDigits_exactValue negative positive]
  cases negative <;> simp [abs_of_pos value]

/-- **A result text denotes the value, rounded to twelve digits.** -/
theorem decimalNumber?_eq_twelveDigits (magnitude : Magnitude) :
    decimalNumber? (resultText negative magnitude) =
      some (twelveDigits (exactValue negative magnitude)) := by
  rcases Nat.eq_zero_or_pos magnitude.units with zero | positive
  · rw [resultText_of_units_eq_zero negative zero, exactValue_eq_zero_iff.mpr zero,
      twelveDigits_zero, decimalNumber?_zero]
  · rw [resultText_of_pos positive negative, twelveDigits_exactValue negative positive]
    exact Scientific.decimalNumber?_signed (Magnitude.rounded_bounds positive).1 negative

/-- Only zero rounds to zero. -/
theorem twelveDigits_exactValue_eq_zero_iff :
    twelveDigits (exactValue negative magnitude) = 0 ↔ magnitude.units = 0 := by
  constructor
  · intro rounded
    by_contra nonzero
    have positive := Nat.pos_of_ne_zero nonzero
    have size := abs_twelveDigits_exactValue negative positive
    rw [rounded, abs_zero] at size
    exact absurd size (ne_of_lt (Scientific.value_pos (Magnitude.rounded_bounds positive).1))
  · intro zero
    rw [exactValue_eq_zero_iff.mpr zero, twelveDigits_zero]

end Texts

/-- **Results are written alike exactly if they round to the same number.** What a text denotes is
the rounded number; and the sign, the digits and the exponent of a rounded number, from which the
text is made, can be told from it. -/
theorem resultText_eq_iff (negative : Bool) (magnitude : Magnitude) (otherNegative : Bool)
    (other : Magnitude) : resultText negative magnitude = resultText otherNegative other ↔
      twelveDigits (exactValue negative magnitude) =
        twelveDigits (exactValue otherNegative other) := by
  constructor
  · intro same
    have read := congrArg decimalNumber? same
    rwa [decimalNumber?_eq_twelveDigits, decimalNumber?_eq_twelveDigits, Option.some.injEq] at read
  · intro same
    by_cases zero : magnitude.units = 0
    · have otherZero : other.units = 0 := by
        rw [← twelveDigits_exactValue_eq_zero_iff otherNegative, ← same]
        exact (twelveDigits_exactValue_eq_zero_iff negative).mpr zero
      rw [resultText_of_units_eq_zero negative zero,
        resultText_of_units_eq_zero otherNegative otherZero]
    · have otherNonzero : other.units ≠ 0 := by
        rw [Ne, ← twelveDigits_exactValue_eq_zero_iff otherNegative, ← same]
        exact mt (twelveDigits_exactValue_eq_zero_iff negative).mp zero
      have positive := Nat.pos_of_ne_zero zero
      have otherPositive := Nat.pos_of_ne_zero otherNonzero
      have bounds := (Magnitude.rounded_bounds otherPositive).1
      have values : magnitude.rounded.value = other.rounded.value := by
        rw [← abs_twelveDigits_exactValue negative positive, same,
          abs_twelveDigits_exactValue otherNegative otherPositive]
      have numbers : magnitude.rounded = other.rounded :=
        Scientific.eq_of_value_eq (Magnitude.rounded_bounds positive).1 bounds values
      have signs : negative = otherNegative := by
        rw [twelveDigits_exactValue negative positive, numbers,
          twelveDigits_exactValue otherNegative otherPositive] at same
        have factors := mul_right_cancel₀ (ne_of_gt (Scientific.value_pos bounds)) same
        cases negative <;> cases otherNegative <;> norm_num at factors <;> rfl
      rw [resultText_of_pos positive negative, resultText_of_pos otherPositive otherNegative,
        numbers, signs]

/-! ## Canonical texts -/

/-- **The canonical text of a number.** -/
structure IsCanonical (x : ℚ) (shown : List Char) : Prop where
  /-- Zero is written `0`, and nothing else is. -/
  zero : shown = ['0'] ↔ x = 0
  /-- Zero is never written with a sign. -/
  unsigned : shown ≠ ['-', '0']
  /-- Anything else has one of the two forms, without an exponent or with one. -/
  form : shown = ['0'] ∨ (shown ∈ Pattern.fixed.matches' ∧ significantDigits shown ≤ 12) ∨
    shown ∈ Pattern.exponential.matches'
  /-- It has an exponent exactly if the rounded number is very small or very large. -/
  exponent : shown ∈ Pattern.exponential.matches' ↔
    x ≠ 0 ∧ (|twelveDigits x| < 10 ^ (-6 : ℤ) ∨ 10 ^ (12 : ℕ) ≤ |twelveDigits x|)
  /-- The text is short. -/
  length : shown.length ≤ 20

/-- No text without exponent matches the form of a text with one. -/
theorem Scientific.not_matches_exponential {number : Scientific}
    (significand : 10 ^ (11 : Nat) ≤ number.significand ∧ number.significand < 10 ^ (12 : Nat))
    (negative : Bool) (near : number.isExponential = false) :
    (if negative then '-' :: number.text else number.text) ∉ Pattern.exponential.matches' := by
  intro matched
  obtain ⟨whole, places, laidOut⟩ := exists_laidOut significand near
  have letter := Pattern.letter_mem_of_mem_exponential matched
  have inside : 'e' ∈ number.text := by
    cases negative with
    | false => exact letter
    | true => exact (List.mem_cons.mp letter).resolve_left (by decide)
  rw [laidOut.text] at inside
  exact ne_letter_of_mem_decimalText laidOut.wholeDigits laidOut.placesDigits inside rfl

/-- Zero has a canonical text. -/
theorem isCanonical_zero : IsCanonical 0 ['0'] where
  zero := by simp
  unsigned := by decide
  form := .inl rfl
  exponent := by
    constructor
    · intro matched
      exact absurd (Pattern.letter_mem_of_mem_exponential matched) (by decide)
    · rintro ⟨nonzero, -⟩
      exact absurd rfl nonzero
  length := by decide

/-- **Any other number has one.** -/
theorem isCanonical_of_pos (negative : Bool) {magnitude : Magnitude}
    (positive : 0 < magnitude.units) :
    IsCanonical (exactValue negative magnitude) (resultText negative magnitude) := by
  have nonzero : exactValue negative magnitude ≠ 0 :=
    mt exactValue_eq_zero_iff.mp (Nat.ne_of_gt positive)
  have bounds := (Magnitude.rounded_bounds positive).1
  have shown := resultText_of_pos positive negative
  -- a text that denotes zero is not the text of this number
  have other {text : List Char} (read : decimalNumber? text = some 0) :
      resultText negative magnitude ≠ text := by
    intro same
    rw [← same, decimalNumber?_eq_twelveDigits, Option.some.injEq,
      twelveDigits_exactValue_eq_zero_iff] at read
    exact absurd read (Nat.ne_of_gt positive)
  have notZero : resultText negative magnitude ≠ ['0'] := other decimalNumber?_zero
  have far := Scientific.isExponential_iff bounds
  rw [← abs_twelveDigits_exactValue negative positive] at far
  refine ⟨iff_of_false notZero nonzero, other decimalNumber?_minus_zero, ?_, ?_,
    length_resultText_le negative magnitude⟩
  · rw [shown]
    cases exponential : magnitude.rounded.isExponential with
    | true => exact .inr (.inr (Scientific.matches_exponential bounds negative exponential))
    | false =>
      obtain ⟨matched, few⟩ := Scientific.matches_fixed bounds negative exponential
      refine .inr (.inl ⟨matched, ?_⟩)
      cases negative <;> exact few
  · rw [and_iff_right nonzero, ← far, shown]
    cases exponential : magnitude.rounded.isExponential with
    | true => exact iff_of_true (Scientific.matches_exponential bounds negative exponential) rfl
    | false =>
      exact iff_of_false (Scientific.not_matches_exponential bounds negative exponential)
        Bool.false_ne_true

/-- **Result texts are canonical.** The text of every finite number has the form that the rounded
number prescribes, and two numbers have the same text exactly if they round to the same number of
twelve significant digits. -/
theorem resultText_canonical (negative : Bool) (magnitude : Magnitude) (otherNegative : Bool)
    (other : Magnitude) :
    IsCanonical (exactValue negative magnitude) (resultText negative magnitude) ∧
      (resultText negative magnitude = resultText otherNegative other ↔
        twelveDigits (exactValue negative magnitude) =
          twelveDigits (exactValue otherNegative other)) := by
  refine ⟨?_, resultText_eq_iff negative magnitude otherNegative other⟩
  rcases Nat.eq_zero_or_pos magnitude.units with zero | positive
  · rw [exactValue_eq_zero_iff.mpr zero, resultText_of_units_eq_zero negative zero]
    exact isCanonical_zero
  · exact isCanonical_of_pos negative positive

end PocketCalc
