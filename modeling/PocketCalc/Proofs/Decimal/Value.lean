import Mathlib.Algebra.Order.Field.Power
import Mathlib.Algebra.Order.Round
import Mathlib.Data.Rat.Floor
import Mathlib.Data.Sign.Basic
import Mathlib.Tactic.FieldSimp
import Mathlib.Tactic.Positivity
import Mathlib.Tactic.Ring
import PocketCalc.Expression.Symbol
import PocketCalc.Proofs.Decimal.Layout

/-! # The number that a result text denotes

A result text is read as a rational number: sign, whole part, places and exponent, each as it is
written. The number is the exact value of the result, rounded to twelve significant digits, an exact
half going away from zero. Layout and dropped zeros make no difference to it, nor does a carry
through nines, after which the first digit stands one place further to the left.

* **`decimalNumber?`** — the number that a text denotes, if it is a decimal number at all.
* **`Scientific.value`** — the number of a significand and an exponent.
* **`Scientific.unsigned?_text`** — every layout denotes that number.
* **`roundHalfUp_eq_round`** — rounding whole quotients is rounding rational numbers.
* **`roundSignificant_value`** — the number that rounding to twelve digits leaves.
* **`decimalNumber?_resultText`** — the number that a result text denotes. -/

namespace PocketCalc

-- Powers are those of the core library, also where another instance of `Pow` is known.
attribute [local instance (high)] instPowNat

/-! ## Decimal numbers -/

/-- The natural number that a text of digits denotes. -/
def natural? (text : List Char) : Option ℕ :=
  if text.isEmpty || !text.all Char.isDigit then none else some (Nat.ofDigitChars 10 text 0)

/-- The number that a text without sign and exponent denotes: digits, or digits around a point. -/
def fraction? (text : List Char) : Option ℚ :=
  let whole := text.takeWhile Char.isDigit
  match text.dropWhile Char.isDigit with
  | [] => (natural? whole).map fun value => (value : ℚ)
  | '.' :: places =>
    if whole.isEmpty || places.isEmpty then none
    else (natural? (whole ++ places)).map fun value => (value : ℚ) / 10 ^ places.length
  | _ => none

/-- The exponent that a sign and digits denote. -/
def exponent? : List Char → Option ℤ
  | '+' :: text => (natural? text).map fun value => (value : ℤ)
  | '-' :: text => (natural? text).map fun value => -(value : ℤ)
  | _ => none

/-- The number that a text without sign denotes. -/
def unsigned? (text : List Char) : Option ℚ :=
  match text.dropWhile (· != 'e') with
  | [] => fraction? text
  | _ :: behind => do
    let fraction ← fraction? (text.takeWhile (· != 'e'))
    let exponent ← exponent? behind
    return fraction * 10 ^ exponent

/-- **The number that a text denotes**, if it is a decimal number. -/
def decimalNumber? : List Char → Option ℚ
  | '-' :: text => (unsigned? text).map fun value => -value
  | text => unsigned? text

/-- Digits denote a natural number. -/
theorem natural?_of_isDigit {text : List Char} (something : text ≠ [])
    (digits : ∀ c ∈ text, c.isDigit = true) :
    natural? text = some (Nat.ofDigitChars 10 text 0) := by
  rw [natural?, List.isEmpty_eq_false_iff.mpr something, List.all_eq_true.mpr digits]
  rfl

/-- A natural number denotes itself. -/
theorem natural?_digits (value : ℕ) : natural? (digits value) = some value := by
  have something : digits value ≠ [] := Nat.toDigits_ne_nil
  rw [natural?_of_isDigit something fun c member => isDigit_of_mem_digits member, digits,
    Nat.ofDigitChars_toDigits (by decide) (by decide)]

/-- **A whole part and places** denote their digits, scaled by the number of places. -/
theorem fraction?_decimalText {whole places : List Char} (something : whole ≠ [])
    (wholeDigits : ∀ c ∈ whole, c.isDigit = true) (placesDigits : ∀ c ∈ places, c.isDigit = true) :
    fraction? (decimalText whole places) =
      some ((Nat.ofDigitChars 10 (whole ++ places) 0 : ℚ) / 10 ^ places.length) := by
  obtain ⟨before, behind⟩ := span_decimalText wholeDigits places
  have all : ∀ c ∈ whole ++ places, c.isDigit = true := fun c member =>
    (List.mem_append.mp member).elim (wholeDigits c) (placesDigits c)
  have read := natural?_of_isDigit (List.append_ne_nil_of_left_ne_nil something places) all
  have nonempty : whole.isEmpty = false := List.isEmpty_eq_false_iff.mpr something
  unfold fraction?
  rw [before, behind]
  cases places with
  | nil =>
    rw [List.append_nil] at read ⊢
    simp [read]
  | cons first rest => simp [read, nonempty]

/-- A text without the letter of the exponent has none. -/
theorem unsigned?_of_notMem {text : List Char} (plain : ∀ c ∈ text, c ≠ 'e') :
    unsigned? text = fraction? text := by
  have all : ∀ c ∈ text, (c != 'e') = true := fun c member => bne_iff_ne.mpr (plain c member)
  have nothing : (text ++ []).dropWhile (· != 'e') = [] := List.dropWhile_append_of_pos all
  rw [List.append_nil] at nothing
  rw [unsigned?, nothing]

/-- A text with an exponent denotes the number before it, scaled. -/
theorem unsigned?_append_exponent {before : List Char} (plain : ∀ c ∈ before, c ≠ 'e')
    {fraction : ℚ} (read : fraction? before = some fraction) {behind : List Char} {exponent : ℤ}
    (shown : exponent? behind = some exponent) :
    unsigned? (before ++ 'e' :: behind) = some (fraction * 10 ^ exponent) := by
  have all : ∀ c ∈ before, (c != 'e') = true := fun c member => bne_iff_ne.mpr (plain c member)
  have early : (before ++ 'e' :: behind).takeWhile (· != 'e') = before := by
    rw [List.takeWhile_append_of_pos all]
    simp
  have late : (before ++ 'e' :: behind).dropWhile (· != 'e') = 'e' :: behind := by
    rw [List.dropWhile_append_of_pos all]
    simp
  rw [unsigned?, early, late]
  simp [read, shown]

/-- A text with a sign denotes no number without sign. -/
theorem unsigned?_minus (text : List Char) : unsigned? ('-' :: text) = none := by
  have refused (rest : List Char) : fraction? ('-' :: rest) = none := rfl
  unfold unsigned?
  split
  · exact refused text
  · rw [List.takeWhile_cons_of_pos rfl, refused]
    rfl

/-! ## Layouts -/

/-- A decimal number has no letter. -/
theorem ne_letter_of_mem_decimalText {whole places : List Char}
    (wholeDigits : ∀ c ∈ whole, c.isDigit = true) (placesDigits : ∀ c ∈ places, c.isDigit = true)
    {c : Char} (member : c ∈ decimalText whole places) : c ≠ 'e' := by
  rcases mem_decimalText member with before | rfl | behind
  · exact ne_of_isDigit (wholeDigits c before) rfl
  · decide
  · exact ne_of_isDigit (placesDigits c behind) rfl

namespace Scientific

/-- **The number of a significand and an exponent**, the point standing behind the first of
`resultDigits` digits. -/
def value (number : Scientific) : ℚ :=
  number.significand * 10 ^ (number.exponent - (resultDigits - 1))

/-- A text without exponent denotes the number that is laid out. -/
theorem LaidOut.unsigned?_text {number : Scientific} {whole places : List Char}
    (laidOut : number.LaidOut whole places) : unsigned? number.text = some number.value := by
  obtain ⟨zeros, significand, count⟩ := laidOut.value
  have power : number.exponent - (resultDigits - 1) = -((places.length + zeros : ℕ) : ℤ) := by
    omega
  rw [laidOut.text, unsigned?_of_notMem fun c member =>
      ne_letter_of_mem_decimalText laidOut.wholeDigits laidOut.placesDigits member,
    fraction?_decimalText laidOut.something laidOut.wholeDigits laidOut.placesDigits,
    Scientific.value, power, significand, zpow_neg, zpow_natCast, pow_add]
  congr 1
  push_cast
  field_simp

/-- A sign and digits denote an exponent. -/
theorem exponent?_sign (exponent : ℤ) :
    exponent? ((if exponent < 0 then '-' else '+') :: PocketCalc.digits exponent.natAbs) =
      some exponent := by
  by_cases negative : exponent < 0
  · have opposite : -(exponent.natAbs : ℤ) = exponent := by omega
    rw [if_pos negative, exponent?, natural?_digits]
    exact congrArg some opposite
  · have same : (exponent.natAbs : ℤ) = exponent := by omega
    rw [if_neg negative, exponent?, natural?_digits]
    exact congrArg some same

/-- A text with an exponent denotes the number of its digits and the exponent. -/
theorem unsigned?_exponential {number : Scientific}
    (twelve : (PocketCalc.digits number.significand).length = resultDigits) :
    unsigned? number.exponential = some number.value := by
  have all (c : Char) (member : c ∈ PocketCalc.digits number.significand) : c.isDigit = true :=
    isDigit_of_mem_digits member
  have first : ∀ c ∈ (PocketCalc.digits number.significand).take 1, c.isDigit = true :=
    fun c member => all c (List.mem_of_mem_take member)
  have others : ∀ c ∈ (PocketCalc.digits number.significand).drop 1, c.isDigit = true :=
    fun c member => all c (List.mem_of_mem_drop member)
  have something : (PocketCalc.digits number.significand).take 1 ≠ [] := by
    intro nothing
    have count := congrArg List.length nothing
    rw [List.length_take, twelve] at count
    cases count
  have places : (PocketCalc.digits number.significand).drop 1 ≠ [] := by
    intro nothing
    have count := congrArg List.length nothing
    rw [List.length_drop, twelve] at count
    cases count
  have shown : number.exponential =
      decimalText ((PocketCalc.digits number.significand).take 1)
        ((PocketCalc.digits number.significand).drop 1) ++
          'e' :: (if number.exponent < 0 then '-' else '+') ::
            PocketCalc.digits number.exponent.natAbs := by
    rw [decimalText_of_ne_nil _ places]
    rfl
  have read := fraction?_decimalText something first others
  rw [List.take_append_drop, PocketCalc.digits, Nat.ofDigitChars_toDigits (by decide) (by decide),
    ← PocketCalc.digits, List.length_drop, twelve] at read
  rw [shown, unsigned?_append_exponent
    (fun c member => ne_letter_of_mem_decimalText first others member) read
    (exponent?_sign number.exponent), value, zpow_sub₀ (by decide)]
  congr 1
  simp only [resultDigits]
  norm_num
  ring

/-- **Every layout denotes the number that is laid out.** -/
theorem unsigned?_text {number : Scientific}
    (significand : 10 ^ (11 : Nat) ≤ number.significand ∧ number.significand < 10 ^ (12 : Nat)) :
    unsigned? number.text = some number.value := by
  cases far : number.isExponential with
  | false =>
    obtain ⟨whole, places, laidOut⟩ := exists_laidOut significand far
    exact laidOut.unsigned?_text
  | true =>
    rw [text_eq, if_pos far]
    exact unsigned?_exponential (length_digits_eq (by decide) significand.1 significand.2)

end Scientific

/-! ## Rounding -/

/-- **Rounding a quotient of whole numbers** is rounding the rational number that it is. -/
theorem roundHalfUp_eq_round (numerator : ℕ) {denominator : ℕ} (positive : 0 < denominator) :
    (roundHalfUp numerator denominator : ℤ) = round ((numerator : ℚ) / denominator) := by
  have nonzero : (denominator : ℚ) ≠ 0 := Nat.cast_ne_zero.mpr (Nat.ne_of_gt positive)
  have shifted : (numerator : ℚ) / denominator + 1 / 2 =
      ((2 * numerator + denominator : ℕ) : ℚ) / ((2 * denominator : ℕ) : ℚ) := by
    push_cast
    field_simp
  rw [round_eq, shifted, Rat.floor_natCast_div_natCast, roundHalfUp]
  rfl

/-- **The exponent of a quotient** says between which powers of ten it lies. -/
theorem decimalExponent_bounds {numerator denominator : ℕ} (numerator_pos : 0 < numerator)
    (denominator_pos : 0 < denominator) :
    (10 : ℚ) ^ decimalExponent numerator denominator ≤ (numerator : ℚ) / denominator ∧
      (numerator : ℚ) / denominator < 10 ^ (decimalExponent numerator denominator + 1) := by
  have positive : (0 : ℚ) < denominator := Nat.cast_pos.mpr denominator_pos
  rw [le_div_iff₀ positive, div_lt_iff₀ positive]
  rcases decimalExponent_spec numerator_pos denominator_pos with
    ⟨whole, lower, upper⟩ | ⟨fraction, lower, upper⟩
  · -- the first digit stands before the point, and the powers are natural numbers
    obtain ⟨exponent, exact⟩ := Int.eq_ofNat_of_zero_le whole
    rw [exact, Int.toNat_natCast] at lower upper
    rw [exact, ← Nat.cast_succ, zpow_natCast, zpow_natCast, mul_comm, mul_comm _ (denominator : ℚ)]
    exact ⟨by exact_mod_cast lower, by exact_mod_cast upper⟩
  · -- it stands behind the point, and the powers are inverses of natural numbers
    obtain ⟨places, exact⟩ :
        ∃ places : ℕ, decimalExponent numerator denominator = -(places + 1 : ℕ) :=
      ⟨(-decimalExponent numerator denominator).toNat - 1, by omega⟩
    have count : (-decimalExponent numerator denominator).toNat = places + 1 := by omega
    rw [count] at lower upper
    rw [Nat.add_sub_cancel] at upper
    have next : -((places + 1 : ℕ) : ℤ) + 1 = -(places : ℤ) := by omega
    rw [exact, next, zpow_neg, zpow_neg, zpow_natCast, zpow_natCast,
      inv_mul_le_iff₀ (by positivity), lt_inv_mul_iff₀ (by positivity), mul_comm,
      mul_comm _ (numerator : ℚ)]
    exact ⟨by exact_mod_cast lower, by exact_mod_cast upper⟩

/-- **Rounding a scaled quotient** is rounding a rational number, whatever the sign of the scale. -/
theorem roundHalfUp_scaled (numerator : ℕ) {denominator : ℕ} (positive : 0 < denominator)
    (scale : ℤ) :
    ((if 0 ≤ scale then roundHalfUp (numerator * 10 ^ scale.toNat) denominator
      else roundHalfUp numerator (denominator * 10 ^ (-scale).toNat) : ℕ) : ℤ) =
      round ((numerator : ℚ) / denominator * 10 ^ scale) := by
  split
  · rename_i up
    obtain ⟨places, exact⟩ := Int.eq_ofNat_of_zero_le up
    rw [exact, Int.toNat_natCast, roundHalfUp_eq_round _ positive, zpow_natCast]
    congr 1
    push_cast
    ring
  · rename_i down
    obtain ⟨places, exact⟩ := Int.eq_ofNat_of_zero_le
      (Int.neg_nonneg_of_nonpos (Int.le_of_not_le down))
    have opposite : scale = -(places : ℤ) := by omega
    have scaled_pos : 0 < denominator * 10 ^ places :=
      Nat.mul_pos positive (Nat.pow_pos (by decide))
    rw [exact, Int.toNat_natCast, opposite, zpow_neg, zpow_natCast,
      roundHalfUp_eq_round _ scaled_pos]
    congr 1
    push_cast
    field_simp

/-- **A carry through nines** gives one digit more, which moves into the exponent. -/
theorem Scientific.value_carry (significand : ℕ) (exponent : ℤ) :
    (if significand = 10 ^ resultDigits then
        (⟨10 ^ (resultDigits - 1), exponent + 1⟩ : Scientific)
      else ⟨significand, exponent⟩).value = significand * 10 ^ (exponent - 11) := by
  split
  · rename_i carry
    have next : exponent + 1 - ((resultDigits : ℤ) - 1) = exponent - 11 + 1 := by
      rw [resultDigits]
      omega
    rw [value, next, zpow_add_one₀ (by decide), carry, resultDigits]
    push_cast
    ring
  · rfl

/-- **The number that rounding to twelve digits leaves**: the quotient, scaled to twelve digits
before the point, rounded there and scaled back. -/
theorem roundSignificant_value (numerator : ℕ) {denominator : ℕ} (positive : 0 < denominator) :
    let exponent := decimalExponent numerator denominator
    (roundSignificant resultDigits numerator denominator).value =
      round ((numerator : ℚ) / denominator * 10 ^ (11 - exponent)) * 10 ^ (exponent - 11) := by
  intro exponent
  rw [← roundHalfUp_scaled numerator positive, Int.cast_natCast]
  exact Scientific.value_carry _ _

/-! ## Result texts -/

/-- The exact value of a finite binary64 number. -/
def exactValue (negative : Bool) (magnitude : Magnitude) : ℚ :=
  Binary64.signedUnits negative magnitude / unitsPerOne

/-- The magnitude of a value is the number of its units. -/
theorem abs_exactValue (negative : Bool) (magnitude : Magnitude) :
    |exactValue negative magnitude| = (magnitude.units : ℚ) / unitsPerOne := by
  have one : (0 : ℚ) < unitsPerOne := Nat.cast_pos.mpr unitsPerOne_pos
  have units : |(Binary64.signedUnits negative magnitude : ℚ)| = magnitude.units := by
    cases negative <;> simp [Binary64.signedUnits]
  rw [exactValue, abs_div, abs_of_pos one, units]

/-- The sign of a value other than zero. -/
theorem sign_exactValue (negative : Bool) {magnitude : Magnitude} (positive : 0 < magnitude.units) :
    SignType.sign (exactValue negative magnitude) = if negative then -1 else 1 := by
  have one : (0 : ℚ) < unitsPerOne := Nat.cast_pos.mpr unitsPerOne_pos
  have units : (0 : ℚ) < magnitude.units := Nat.cast_pos.mpr positive
  cases negative with
  | false =>
    have above : 0 < exactValue false magnitude := div_pos (by simpa [Binary64.signedUnits]) one
    rw [sign_pos above]
    rfl
  | true =>
    have below : exactValue true magnitude < 0 :=
      div_neg_of_neg_of_pos (by simpa [Binary64.signedUnits]) one
    rw [sign_neg below]
    rfl

/-- The number of a rounded magnitude. -/
theorem Magnitude.rounded_value (magnitude : Magnitude) :
    let exponent := decimalExponent magnitude.units unitsPerOne
    magnitude.rounded.value =
      round ((magnitude.units : ℚ) / unitsPerOne * 10 ^ (11 - exponent)) * 10 ^ (exponent - 11) :=
  roundSignificant_value magnitude.units unitsPerOne_pos

/-- A result text without its sign denotes what it denotes unsigned. -/
theorem decimalNumber?_of_unsigned? {text : List Char} {value : ℚ}
    (read : unsigned? text = some value) : decimalNumber? text = some value := by
  unfold decimalNumber?
  split
  · rename_i rest
    rw [unsigned?_minus] at read
    cases read
  · exact read

/-- **A result text denotes the exact value, rounded to twelve significant digits.** Where
`exponent` is that of the first digit of the value, the value without its sign is scaled to twelve
digits before the point, and the text denotes the whole number nearest to it, with the sign and
scaled back. An exact half goes up, and so away from zero, whether the number below is even or odd;
and the whole number is `10 ^ 12` exactly where the nines carry. -/
theorem decimalNumber?_resultText (negative : Bool) {magnitude : Magnitude}
    (nonzero : magnitude.units ≠ 0) :
    let x := exactValue negative magnitude
    ∃ exponent : ℤ, (10 ^ exponent ≤ |x| ∧ |x| < 10 ^ (exponent + 1)) ∧
      let scaled : ℚ := |x| * 10 ^ (11 - exponent)
      let nearest : ℤ := round scaled
      decimalNumber? (resultText negative magnitude) =
          some ((SignType.sign x : ℚ) * nearest * 10 ^ (exponent - 11)) ∧
        (nearest - 1 / 2 ≤ scaled ∧ scaled < nearest + 1 / 2) ∧
        (nearest = 10 ^ (12 : ℕ) ↔ 10 ^ (12 : ℕ) - 1 / 2 ≤ scaled) := by
  intro x
  have positive := Nat.pos_of_ne_zero nonzero
  obtain ⟨lower, upper⟩ := decimalExponent_bounds positive unitsPerOne_pos
  have read := Scientific.unsigned?_text (Magnitude.rounded_bounds positive).1
  rw [← abs_exactValue negative] at lower upper
  refine ⟨decimalExponent magnitude.units unitsPerOne, ⟨lower, upper⟩, ?_⟩
  intro scaled nearest
  have below : scaled < 10 ^ (12 : ℕ) :=
    calc scaled
      _ < 10 ^ (decimalExponent magnitude.units unitsPerOne + 1) *
          10 ^ (11 - decimalExponent magnitude.units unitsPerOne) :=
        mul_lt_mul_of_pos_right upper (by positivity)
      _ = 10 ^ (12 : ℕ) := by
        have digits : decimalExponent magnitude.units unitsPerOne + 1 +
            (11 - decimalExponent magnitude.units unitsPerOne) = (12 : ℕ) := by omega
        rw [← zpow_add₀ (by decide), digits, zpow_natCast]
  refine ⟨?_, round_eq_iff.mp rfl, ?_⟩
  · have read := Scientific.unsigned?_text (Magnitude.rounded_bounds positive).1
    rw [Magnitude.rounded_value, ← abs_exactValue negative] at read
    rw [sign_exactValue negative positive, resultText_of_pos positive]
    cases negative with
    | false =>
      rw [if_neg Bool.false_ne_true, if_neg Bool.false_ne_true, decimalNumber?_of_unsigned? read,
        SignType.coe_one, one_mul]
    | true =>
      rw [if_pos rfl, if_pos rfl, decimalNumber?, read, Option.map_some, SignType.coe_neg_one,
        neg_one_mul, neg_mul]
  · -- the scaled value is below `10 ^ 12`, so it is rounded up to it or to a number below
    constructor
    · intro carry
      exact_mod_cast (round_eq_iff.mp carry).1
    · intro high
      refine round_eq_iff.mpr ⟨by exact_mod_cast high, ?_⟩
      push_cast
      linarith

/-- Half way between two whole numbers of twelve digits, the one further from zero is shown, also
where the other is even. -/
theorem decimalNumber?_resultText_of_tie : ∃ magnitude : Magnitude, magnitude.units ≠ 0 ∧
    exactValue true magnitude = -100000000000.5 ∧
    decimalNumber? (resultText true magnitude) = some (-100000000001) := by
  have one_lt_ten : (1 : ℚ) < 10 := by norm_num
  let magnitude : Magnitude :=
    ⟨200000000001 * 2 ^ (unitExponent - 1), spacing_dvd_shifted (by decide) _, by decide +kernel⟩
  have nonzero : magnitude.units ≠ 0 :=
    Nat.ne_of_gt (Nat.mul_pos (by decide) (Nat.two_pow_pos _))
  have exact : exactValue true magnitude = -100000000000.5 := by
    have signed : Binary64.signedUnits true magnitude =
        -((200000000001 * 2 ^ (unitExponent - 1) : ℕ) : ℤ) := rfl
    have half : unitsPerOne = 2 ^ (unitExponent - 1) * 2 := by
      rw [← pow_succ, Nat.sub_add_cancel (by rw [unitExponent_eq]; decide), unitsPerOne]
    rw [exactValue, signed, half]
    push_cast
    field_simp
    norm_num
  have size : |exactValue true magnitude| = 100000000000.5 := by
    rw [exact]
    norm_num
  have sign : SignType.sign (exactValue true magnitude) = -1 := by
    rw [exact]
    exact sign_neg (by norm_num)
  refine ⟨magnitude, nonzero, exact, ?_⟩
  obtain ⟨exponent, ⟨lower, upper⟩, read, -⟩ := decimalNumber?_resultText true nonzero
  rw [size] at lower upper
  have most : exponent < 12 :=
    (zpow_lt_zpow_iff_right₀ one_lt_ten).mp (lower.trans_lt (by norm_num))
  have least : 11 < exponent + 1 :=
    (zpow_lt_zpow_iff_right₀ one_lt_ten).mp (lt_of_le_of_lt (by norm_num) upper)
  have eleven : exponent = 11 := by omega
  have rounded : round (100000000000.5 : ℚ) = 100000000001 := by
    rw [round_eq_iff]
    norm_num
  rw [read, size, sign, eleven, sub_self, zpow_zero, mul_one, mul_one, rounded]
  norm_num

end PocketCalc
