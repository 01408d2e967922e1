import PocketCalc.Decimal.Significant

/-! # Rounding a quotient to significant digits

What rounding means can be said of the quotient itself: it is scaled so that the digits asked for
stand before the point, and rounded there to the nearest whole number, an exact half going up. The
digits that are left are laid out as those that are read off an expansion, and they have bounds: a
result has exactly twelve of them before trailing zeros are dropped, and the exponent of a binary64
number has at most three digits.

* **`roundHalfUp`**, **`roundSignificant`** — rounding a quotient, to a whole number and to
  significant digits.
* **`Scientific`**, **`Scientific.shown`** — a significand with its exponent, and its digits.
* **`roundSignificant_bounds`** — rounding leaves exactly the digits asked for.
* **`Magnitude.exponent_bounds`** — where the first digit of a binary64 number can stand.
* **`Scientific.length_text_le`** — the length of the text of twelve digits. -/

namespace PocketCalc

-- Powers are those of the core library, also where another instance of `Pow` is known. For that, a
-- numeral in an exponent has its type written.
attribute [local instance (high)] instPowNat

/-! ## Rounded quotients -/

/-- The whole number nearest to `numerator / denominator`; an exact half goes up. -/
def roundHalfUp (numerator denominator : Nat) : Nat :=
  (2 * numerator + denominator) / (2 * denominator)

/-- **A number in scientific form**: `significand`, read with a point after its first digit, times
ten to the `exponent`. -/
structure Scientific where
  /-- All significant digits, as one natural number. -/
  significand : Nat
  /-- The power of ten of the first digit. -/
  exponent : Int
  deriving DecidableEq, Repr

/-- **Rounding to `count` significant digits.** The quotient is scaled so that `count` digits stand
before the point; when rounding carries through nines to one digit more, the exponent grows. -/
def roundSignificant (count numerator denominator : Nat) : Scientific :=
  let exponent := decimalExponent numerator denominator
  let scale := (count : Int) - 1 - exponent
  let significand :=
    if 0 ≤ scale then roundHalfUp (numerator * 10 ^ scale.toNat) denominator
    else roundHalfUp numerator (denominator * 10 ^ (-scale).toNat)
  if significand = 10 ^ count then ⟨10 ^ (count - 1), exponent + 1⟩
  else ⟨significand, exponent⟩

/-- The magnitude of a result, rounded to the digits shown. -/
def Magnitude.rounded (magnitude : Magnitude) : Scientific :=
  roundSignificant resultDigits magnitude.units unitsPerOne

namespace Scientific

/-- **The digits of a number** and its exponent, to be laid out. -/
def shown (number : Scientific) : Rounded := ⟨digits number.significand, number.exponent⟩

/-- The text with an exponent. -/
def exponential (number : Scientific) : List Char := number.shown.exponential

/-- The text without an exponent. -/
def fixed (number : Scientific) : List Char := number.shown.fixed

/-- Whether the text has an exponent. -/
def isExponential (number : Scientific) : Bool := number.shown.isExponential

/-- The text of a number of `resultDigits` significant digits. -/
def text (number : Scientific) : List Char := number.shown.text

variable (number : Scientific)

/-- How the text with an exponent is made of the digits. -/
theorem exponential_eq : number.exponential =
    (digits number.significand).take 1 ++ '.' :: (digits number.significand).drop 1 ++
      'e' :: (if number.exponent < 0 then '-' else '+') :: digits number.exponent.natAbs :=
  rfl

/-- How the text without an exponent is. -/
theorem fixed_eq : number.fixed = dropTrailingZeros (
    if number.exponent < 0 then
      '0' :: '.' :: (List.replicate (-number.exponent - 1).toNat '0' ++ digits number.significand)
    else
      (digits number.significand).take (number.exponent.toNat + 1) ++
        '.' :: (digits number.significand).drop (number.exponent.toNat + 1)) :=
  rfl

/-- Which exponents are shown. -/
theorem isExponential_eq : number.isExponential =
    (decide (number.exponent < -6) || decide ((resultDigits : Int) ≤ number.exponent)) :=
  rfl

/-- The text has one of two forms. -/
theorem text_eq :
    number.text = if number.isExponential then number.exponential else number.fixed :=
  rfl

end Scientific

/-! ## Bounds -/

/-- Rounding a quotient that lies between two whole numbers stays between them. -/
theorem roundHalfUp_bounds {lower upper numerator denominator : Nat} (positive : 0 < denominator)
    (above : lower * denominator ≤ numerator) (below : numerator < upper * denominator) :
    lower ≤ roundHalfUp numerator denominator ∧ roundHalfUp numerator denominator ≤ upper := by
  have twice : 0 < 2 * denominator := Nat.mul_pos (by decide) positive
  unfold roundHalfUp
  constructor
  · rw [Nat.le_div_iff_mul_le twice, Nat.mul_left_comm]
    omega
  · rw [← Nat.lt_add_one_iff, Nat.div_lt_iff_lt_mul twice, Nat.add_mul, Nat.mul_left_comm]
    omega

/-- **The quotient scaled to `count` digits before the point**: its exponent is taken off. -/
theorem scaled_bounds {count numerator denominator : Nat} (some_digit : 0 < count)
    (numerator_pos : 0 < numerator) (denominator_pos : 0 < denominator) :
    let scale := (count : Int) - 1 - decimalExponent numerator denominator
    if 0 ≤ scale then
      10 ^ (count - 1) * denominator ≤ numerator * 10 ^ scale.toNat ∧
        numerator * 10 ^ scale.toNat < 10 ^ count * denominator
    else
      10 ^ (count - 1) * (denominator * 10 ^ (-scale).toNat) ≤ numerator ∧
        numerator < 10 ^ count * (denominator * 10 ^ (-scale).toNat) := by
  intro scale
  rcases decimalExponent_spec numerator_pos denominator_pos with
    ⟨whole, lower, upper⟩ | ⟨fraction, lower, upper⟩
  · -- the first digit stands before the point
    obtain ⟨exponent, exact⟩ := Int.eq_ofNat_of_zero_le whole
    rw [exact, Int.toNat_natCast] at lower upper
    split
    · have sum : count - 1 = exponent + scale.toNat := by omega
      have next : count = exponent + 1 + scale.toNat := by omega
      constructor
      · calc 10 ^ (count - 1) * denominator
            _ = denominator * 10 ^ exponent * 10 ^ scale.toNat := by
              rw [sum, Nat.pow_add, Nat.mul_comm, Nat.mul_assoc]
            _ ≤ numerator * 10 ^ scale.toNat := Nat.mul_le_mul_right _ lower
      · calc numerator * 10 ^ scale.toNat
            _ < denominator * 10 ^ (exponent + 1) * 10 ^ scale.toNat :=
              Nat.mul_lt_mul_of_pos_right upper (Nat.pow_pos (by decide))
            _ = 10 ^ (exponent + 1 + scale.toNat) * denominator := by
              rw [Nat.pow_add 10 (exponent + 1), Nat.mul_assoc, Nat.mul_comm]
            _ = 10 ^ count * denominator := by rw [← next]
    · have sum : exponent = count - 1 + (-scale).toNat := by omega
      have next : exponent + 1 = count + (-scale).toNat := by omega
      constructor
      · calc 10 ^ (count - 1) * (denominator * 10 ^ (-scale).toNat)
            _ = denominator * 10 ^ exponent := by
              rw [sum, Nat.pow_add, Nat.mul_left_comm]
            _ ≤ numerator := lower
      · calc numerator
            _ < denominator * 10 ^ (exponent + 1) := upper
            _ = 10 ^ count * (denominator * 10 ^ (-scale).toNat) := by
              rw [next, Nat.pow_add, Nat.mul_left_comm]
  · -- the first digit stands behind the point, so the scale is positive
    have shifted := Int.neg_nonneg_of_nonpos (Int.le_of_lt fraction)
    obtain ⟨places, exact⟩ := Int.eq_ofNat_of_zero_le shifted
    rw [exact, Int.toNat_natCast] at lower upper
    have positive : 0 ≤ scale := by omega
    rw [if_pos positive]
    have sum : scale.toNat = places + (count - 1) := by omega
    have next : scale.toNat = places - 1 + count := by omega
    constructor
    · calc 10 ^ (count - 1) * denominator
          _ ≤ 10 ^ (count - 1) * (numerator * 10 ^ places) := Nat.mul_le_mul_left _ lower
          _ = numerator * 10 ^ scale.toNat := by
            rw [sum, Nat.pow_add, Nat.mul_comm, Nat.mul_assoc]
    · calc numerator * 10 ^ scale.toNat
          _ = numerator * 10 ^ (places - 1) * 10 ^ count := by
            rw [next, Nat.pow_add, Nat.mul_assoc]
          _ < denominator * 10 ^ count :=
            Nat.mul_lt_mul_of_pos_right upper (Nat.pow_pos (by decide))
          _ = 10 ^ count * denominator := Nat.mul_comm _ _

/-- **Rounding leaves exactly the digits asked for**, also when it carries through nines; the
exponent grows by at most one. -/
theorem roundSignificant_bounds {count numerator denominator : Nat} (some_digit : 0 < count)
    (numerator_pos : 0 < numerator) (denominator_pos : 0 < denominator) :
    let rounded := roundSignificant count numerator denominator
    (10 ^ (count - 1) ≤ rounded.significand ∧ rounded.significand < 10 ^ count) ∧
      decimalExponent numerator denominator ≤ rounded.exponent ∧
      rounded.exponent ≤ decimalExponent numerator denominator + 1 := by
  intro rounded
  have scaled := scaled_bounds some_digit numerator_pos denominator_pos
  have step : 10 ^ (count - 1) < 10 ^ count := Nat.pow_lt_pow_right (by decide) (by omega)
  have whole (significand : Nat)
      (within : 10 ^ (count - 1) ≤ significand ∧ significand ≤ 10 ^ count)
      (exact : rounded = if significand = 10 ^ count then
        ⟨10 ^ (count - 1), decimalExponent numerator denominator + 1⟩
        else ⟨significand, decimalExponent numerator denominator⟩) :
      (10 ^ (count - 1) ≤ rounded.significand ∧ rounded.significand < 10 ^ count) ∧
        decimalExponent numerator denominator ≤ rounded.exponent ∧
        rounded.exponent ≤ decimalExponent numerator denominator + 1 := by
    rw [exact]
    split
    · exact ⟨⟨Nat.le_refl _, step⟩, Int.le_add_of_nonneg_right (by decide), Int.le_refl _⟩
    · rename_i fewer
      exact ⟨⟨within.1, Nat.lt_of_le_of_ne within.2 fewer⟩, Int.le_refl _,
        Int.le_add_of_nonneg_right (by decide)⟩
  apply whole _ _ rfl
  split
  · rename_i positive
    simp only [if_pos positive] at scaled
    exact roundHalfUp_bounds denominator_pos scaled.1 scaled.2
  · rename_i negative
    simp only [if_neg negative] at scaled
    have scaled_pos : 0 < denominator *
        10 ^ (-((count : Int) - 1 - decimalExponent numerator denominator)).toNat :=
      Nat.mul_pos denominator_pos (Nat.pow_pos (by decide))
    exact roundHalfUp_bounds scaled_pos scaled.1 scaled.2

/-! ## Binary64 numbers -/

/-- **Where the first digit of a binary64 number can stand.** -/
theorem Magnitude.exponent_bounds {magnitude : Magnitude} (positive : 0 < magnitude.units) :
    -324 ≤ decimalExponent magnitude.units unitsPerOne ∧
      decimalExponent magnitude.units unitsPerOne ≤ 308 := by
  have one_lt_ten : 1 < 10 := by decide
  rcases decimalExponent_spec positive unitsPerOne_pos with
    ⟨whole, lower, -⟩ | ⟨fraction, -, upper⟩
  · -- the magnitude is below `2 ^ 1024`
    have limit : magnitude.units < unitsPerOne * 2 ^ (1024 : Nat) :=
      Nat.lt_of_lt_of_eq magnitude.bounded (Nat.pow_add' 2 1024 unitExponent)
    have units_lt := Nat.lt_of_le_of_lt lower limit
    have power_lt : 10 ^ (decimalExponent magnitude.units unitsPerOne).toNat < 10 ^ (309 : Nat) :=
      Nat.lt_trans (Nat.lt_of_mul_lt_mul_left units_lt) (by decide +kernel)
    have exponent_lt := (Nat.pow_lt_pow_iff_right one_lt_ten).mp power_lt
    omega
  · -- the magnitude is at least one unit, `2 ^ -1074`
    have places_lt : 10 ^ ((-decimalExponent magnitude.units unitsPerOne).toNat - 1) <
        2 ^ (1074 : Nat) := by
      have one : unitsPerOne = 2 ^ (1074 : Nat) := by rw [unitsPerOne, unitExponent_eq]
      have below := Nat.lt_of_le_of_lt (Nat.le_mul_of_pos_left _ positive) upper
      exact Nat.lt_of_lt_of_eq below one
    have power_lt :
        10 ^ ((-decimalExponent magnitude.units unitsPerOne).toNat - 1) < 10 ^ (324 : Nat) :=
      Nat.lt_trans places_lt (by decide +kernel)
    have exponent_lt := (Nat.pow_lt_pow_iff_right one_lt_ten).mp power_lt
    omega

/-- **A rounded magnitude has twelve digits**, and an exponent of at most three. -/
theorem Magnitude.rounded_bounds {magnitude : Magnitude} (positive : 0 < magnitude.units) :
    (10 ^ (11 : Nat) ≤ magnitude.rounded.significand ∧
        magnitude.rounded.significand < 10 ^ (12 : Nat)) ∧
      -324 ≤ magnitude.rounded.exponent ∧ magnitude.rounded.exponent ≤ 309 := by
  have some_digit : 0 < resultDigits := by decide
  obtain ⟨significand, lower, upper⟩ :=
    roundSignificant_bounds some_digit positive unitsPerOne_pos
  have range := Magnitude.exponent_bounds positive
  refine ⟨significand, ?_⟩
  change -324 ≤ (roundSignificant resultDigits magnitude.units unitsPerOne).exponent ∧
    (roundSignificant resultDigits magnitude.units unitsPerOne).exponent ≤ 309
  omega

/-! ## Texts -/

/-- A number between two powers of ten has as many digits as the lower one. -/
theorem length_digits_eq {value count : Nat} (some_digit : 0 < count)
    (lower : 10 ^ (count - 1) ≤ value) (upper : value < 10 ^ count) :
    (digits value).length = count := by
  apply Nat.le_antisymm
  · exact (Nat.length_toDigits_le_iff (by decide) some_digit).mpr upper
  · apply Nat.le_of_not_lt
    intro fewer
    rcases Nat.eq_zero_or_pos (count - 1) with none | several
    · have one : 0 < (digits value).length := Nat.length_toDigits_pos
      omega
    · have short : (digits value).length ≤ count - 1 := Nat.le_sub_one_of_lt fewer
      have small := (Nat.length_toDigits_le_iff (by decide) several).mp short
      exact absurd lower (Nat.not_le.mpr small)

/-- Dropping zeros makes no text longer. -/
theorem length_dropTrailingZeros_le (text : List Char) :
    (dropTrailingZeros text).length ≤ text.length := by
  have kept : (text.reverse.dropWhile (· == '0')).length ≤ text.length := by
    have fewer := (List.dropWhile_sublist (l := text.reverse) (· == '0')).length_le
    rwa [List.length_reverse] at fewer
  unfold dropTrailingZeros
  split
  · split
    · rename_i whole same
      rw [same, List.length_cons] at kept
      rw [List.length_reverse]
      exact Nat.le_of_succ_le kept
    · rwa [List.length_reverse]
  · exact Nat.le_refl _

/-- A number of twelve digits, with an exponent of at most three, has at most nineteen characters in
either form. -/
theorem Scientific.length_text_le {number : Scientific}
    (significand : 10 ^ (11 : Nat) ≤ number.significand ∧ number.significand < 10 ^ (12 : Nat))
    (exponent : number.exponent.natAbs < 1000) : number.text.length ≤ 19 := by
  have twelve : (digits number.significand).length = 12 :=
    length_digits_eq (by decide) significand.1 significand.2
  rw [text_eq]
  split
  · -- twelve digits, a point, the letter and a sign, and the exponent
    have three : (digits number.exponent.natAbs).length ≤ 3 :=
      (Nat.length_toDigits_le_iff (by decide) (by decide)).mpr exponent
    simp only [exponential_eq, List.length_append, List.length_cons, List.length_take,
      List.length_drop, twelve]
    omega
  · rename_i near
    simp only [isExponential_eq, Bool.or_eq_true, decide_eq_true_eq, not_or, Int.not_lt] at near
    rw [fixed_eq]
    refine Nat.le_trans (length_dropTrailingZeros_le _) ?_
    split
    · -- at most five zeros stand between the point and the digits
      simp only [List.length_append, List.length_cons, List.length_replicate, twelve]
      omega
    · simp only [List.length_append, List.length_cons, List.length_take, List.length_drop, twelve]
      omega

/-- All nineteen are needed where five zeros stand behind the point. -/
example : Scientific.text ⟨123456789012, -6⟩ = "0.00000123456789012".toList := by decide +kernel

end PocketCalc
