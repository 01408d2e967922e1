import Mathlib.Data.Nat.Digits.Lemmas
import PocketCalc.Proofs.Binary64.Interval
import PocketCalc.Proofs.Decimal.Significant

/-! # The digits of the exact expansion

Reading the first digits off the expansion of a magnitude and rounding them by the next one is
rounding the quotient that the magnitude is. The expansion is exact, because a binary64 number has
no more than 801 digits behind its first; so the digits that are left out are known to the last one,
and the first of them tells on which side of a half they are. The loop that carries through nines
adds one, and where it runs through all digits the number is a power of ten.

* **`digits_eq_map`** — the digits of a number as Mathlib has them.
* **`ofDigits_raiseLast`** — the loop adds one.
* **`firstDigits_eq`** — rounding digits is rounding their number.
* **`readNotation_scientificText`** — what is written in exponential notation is read back.
* **`Magnitude.unitsPerOne_dvd_scaled`** — the expansion of a magnitude is exact.
* **`Magnitude.roundedTo_eq`** — the digits of a result are those of the rounded quotient. -/

namespace PocketCalc

-- Powers are those of the core library, also where another instance of `Pow` is known. For that, a
-- numeral in an exponent has its type written.
attribute [local instance (high)] instPowNat

/-! ## Digits -/

/-- Digits are digits. -/
theorem isDigit_of_mem_digits {value : Nat} {c : Char} (member : c ∈ digits value) :
    c.isDigit = true :=
  Nat.isDigit_of_mem_toDigits (by decide) (by decide) member

/-- **The digits of a number**, last to first, are those of Mathlib. -/
theorem digits_eq_map {value : Nat} (positive : 0 < value) :
    digits value = (Nat.digits 10 value).reverse.map Nat.digitChar := by
  have base : 1 < 10 := by decide
  induction value using Nat.strongRecOn with
  | ind value ih =>
    rw [digits, Nat.toDigits_eq_if base, Nat.digits_def' base positive]
    split
    · rename_i single
      rw [Nat.mod_eq_of_lt single, Nat.div_eq_of_lt single, Nat.digits_zero]
      rfl
    · rename_i several
      have shorter := ih (value / 10) (by omega) (by omega)
      rw [digits] at shorter
      rw [shorter, List.reverse_cons, List.map_append, List.map_singleton]

/-- A number between two powers of ten has as many digits as the lower one. -/
theorem length_nat_digits {value count : Nat} (lower : 10 ^ (count - 1) ≤ value)
    (upper : value < 10 ^ count) : (Nat.digits 10 value).length = count := by
  have base : 1 < 10 := by decide
  apply Nat.le_antisymm
  · exact (Nat.digits_length_le_iff base value).mpr upper
  · exact Nat.le_of_pred_lt ((Nat.lt_digits_length_iff base value).mpr lower)

/-- **Digits are told by the number that they write**, if none of them is a leading zero. -/
theorem eq_nat_digits {reversed : List Nat} (small : ∀ digit ∈ reversed, digit < 10)
    (lower : 10 ^ (reversed.length - 1) ≤ Nat.ofDigits 10 reversed) :
    reversed = Nat.digits 10 (Nat.ofDigits 10 reversed) := by
  have base : 1 < 10 := by decide
  have upper : Nat.ofDigits 10 reversed < 10 ^ reversed.length :=
    Nat.ofDigits_lt_base_pow_length base small
  have count := length_nat_digits lower upper
  exact Nat.ofDigits_inj_of_len_eq base count.symm small
    (fun _ member => Nat.digits_lt_base base member) (Nat.ofDigits_digits 10 _).symm

/-! ## Raising the last digit -/

/-- **Raising the last digit adds one**; where all digits were nines, one is missing in front. -/
theorem ofDigits_raiseLast (reversed : List Nat) :
    Nat.ofDigits 10 (raiseLast reversed).2 +
        (if (raiseLast reversed).1 then 10 ^ reversed.length else 0) =
      Nat.ofDigits 10 reversed + 1 := by
  induction reversed with
  | nil => rfl
  | cons digit before ih =>
    rw [raiseLast]
    split
    · rename_i nine
      subst nine
      -- the zero is what nine and one leave in this place, and the rest is raised
      rw [Nat.ofDigits_cons, Nat.ofDigits_cons, List.length_cons, Nat.pow_succ']
      cases carries : (raiseLast before).1 with
      | false =>
        simp only [carries, Bool.false_eq_true, if_false] at ih ⊢
        omega
      | true =>
        simp only [carries, if_true] at ih ⊢
        omega
    · rw [Nat.ofDigits_cons, Nat.ofDigits_cons, if_neg Bool.false_ne_true]
      omega

/-- There are as many digits as before. -/
@[simp] theorem length_raiseLast (reversed : List Nat) :
    (raiseLast reversed).2.length = reversed.length := by
  induction reversed with
  | nil => rfl
  | cons digit before ih =>
    rw [raiseLast]
    split
    · simpa using ih
    · rfl

/-- They are digits again. -/
theorem lt_ten_of_mem_raiseLast {reversed : List Nat} (small : ∀ digit ∈ reversed, digit < 10) :
    ∀ digit ∈ (raiseLast reversed).2, digit < 10 := by
  induction reversed with
  | nil => exact small
  | cons digit before ih =>
    rw [List.forall_mem_cons] at small
    rw [raiseLast]
    split
    · exact List.forall_mem_cons.mpr ⟨by decide, ih small.2⟩
    · exact List.forall_mem_cons.mpr ⟨by omega, small.2⟩

/-- Where all digits were nines, all are zeros afterwards. -/
theorem raiseLast_of_carries {reversed : List Nat} (carries : (raiseLast reversed).1 = true) :
    (raiseLast reversed).2 = List.replicate reversed.length 0 := by
  induction reversed with
  | nil => rfl
  | cons digit before ih =>
    rw [raiseLast] at carries ⊢
    split at carries
    · rename_i nine
      rw [if_pos nine]
      exact congrArg (0 :: ·) (ih carries)
    · cases carries

/-! ## Rounding by the next digit -/

/-- **The next digit tells the half**: it is at least five exactly if what is cut off is at least
half a unit of the last digit that is kept. -/
theorem roundHalfUp_pow (significand more : Nat) :
    roundHalfUp significand (10 ^ (more + 1)) = significand / 10 ^ (more + 1) +
      if 5 ≤ significand / 10 ^ more % 10 then 1 else 0 := by
  have unit : 0 < 10 ^ more := Nat.pow_pos (by decide)
  have half : 2 * significand + 10 ^ more * 10 = 2 * (significand + 5 * 10 ^ more) := by omega
  have whole : roundHalfUp significand (10 ^ (more + 1)) = (significand / 10 ^ more + 5) / 10 := by
    rw [roundHalfUp, Nat.pow_succ, half, Nat.mul_div_mul_left _ _ (by decide),
      ← Nat.div_div_eq_div_mul, Nat.add_mul_div_right _ _ unit]
  rw [whole, Nat.pow_succ, ← Nat.div_div_eq_div_mul]
  split <;> omega

/-- The digits of a power of ten. -/
theorem nat_digits_pow (zeros : Nat) :
    Nat.digits 10 (10 ^ zeros) = List.replicate zeros 0 ++ [1] := by
  have one := Nat.digits_base_pow_mul (k := zeros) (show 1 < 10 by decide) (show 0 < 1 by decide)
  rwa [Nat.mul_one] at one

/-- The digits of a number are raised: they are those of the next number, or zeros where that is a
power of ten with a digit more. -/
theorem raiseLast_cases {reversed : List Nat} (small : ∀ digit ∈ reversed, digit < 10)
    (lower : 10 ^ (reversed.length - 1) ≤ Nat.ofDigits 10 reversed) :
    ((raiseLast reversed).1 = true ∧ Nat.ofDigits 10 reversed + 1 = 10 ^ reversed.length ∧
        (raiseLast reversed).2 = List.replicate reversed.length 0) ∨
      ((raiseLast reversed).1 = false ∧ Nat.ofDigits 10 reversed + 1 < 10 ^ reversed.length ∧
        (raiseLast reversed).2 = Nat.digits 10 (Nat.ofDigits 10 reversed + 1)) := by
  have sum := ofDigits_raiseLast reversed
  cases carries : (raiseLast reversed).1 with
  | true =>
    have zeros := raiseLast_of_carries carries
    rw [carries, if_pos rfl, zeros, Nat.ofDigits_replicate_zero, Nat.zero_add] at sum
    exact .inl ⟨rfl, sum.symm, zeros⟩
  | false =>
    rw [carries, if_neg Bool.false_ne_true, Nat.add_zero] at sum
    have digit := lt_ten_of_mem_raiseLast small
    have upper := Nat.ofDigits_lt_base_pow_length (by decide : 1 < 10) digit
    rw [sum, length_raiseLast] at upper
    have told := eq_nat_digits digit
      (by rw [length_raiseLast, sum]; exact Nat.le_succ_of_le lower)
    rw [sum] at told
    exact .inr ⟨rfl, upper, told⟩

/-- The first digits of a number are those that are left without the last ones, and the next digit
is the last one of a quotient. -/
theorem take_getElem?_reverse_digits {count more significand : Nat}
    (length : (Nat.digits 10 significand).length = count + more + 1) :
    (Nat.digits 10 significand).reverse.take count =
        ((Nat.digits 10 significand).drop (more + 1)).reverse ∧
      (Nat.digits 10 significand).reverse[count]? = some (significand / 10 ^ more % 10) := by
  have rest : (Nat.digits 10 significand).length - count = more + 1 := by omega
  have place : (Nat.digits 10 significand).length - 1 - count = more := by omega
  have inside : more < (Nat.digits 10 significand).length := by omega
  constructor
  · rw [List.take_reverse, rest]
  · rw [List.getElem?_reverse (by omega), place, ← Nat.getD_digits significand more (by decide),
      List.getD_eq_getElem?_getD, List.getElem?_eq_getElem inside, Option.getD_some]

/-- **Rounding digits is rounding their number.** The first `count` digits of a number, rounded by
the one behind them, are the digits of the number divided by the power of ten of the digits that are
cut off, and rounded there. -/
theorem firstDigits_eq {count more significand : Nat} (some_digit : 0 < count)
    (lower : 10 ^ (count + more) ≤ significand) (upper : significand < 10 ^ (count + more + 1))
    (exponent : Int) :
    let rounded := roundHalfUp significand (10 ^ (more + 1))
    firstDigits count (Nat.digits 10 significand).reverse exponent =
      if rounded = 10 ^ count then ((Nat.digits 10 (10 ^ (count - 1))).reverse, exponent + 1)
      else ((Nat.digits 10 rounded).reverse, exponent) := by
  intro rounded
  have length : (Nat.digits 10 significand).length = count + more + 1 :=
    length_nat_digits lower upper
  -- the digits that are kept, last to first, and their number
  obtain ⟨kept, same⟩ : ∃ kept, kept = (Nat.digits 10 significand).drop (more + 1) := ⟨_, rfl⟩
  have keptLength : kept.length = count := by
    rw [same, List.length_drop, length]
    omega
  have small : ∀ digit ∈ kept, digit < 10 := by
    intro digit member
    rw [same] at member
    exact Nat.digits_lt_base (by decide) (List.mem_of_mem_drop member)
  have number : significand / 10 ^ (more + 1) = Nat.ofDigits 10 kept := by
    rw [same]
    exact Nat.self_div_pow_eq_ofDigits_drop (more + 1) significand (by decide)
  have least : 10 ^ (kept.length - 1) ≤ Nat.ofDigits 10 kept := by
    have sum : count - 1 + (more + 1) = count + more := by omega
    rw [keptLength, ← number, Nat.le_div_iff_mul_le (Nat.pow_pos (by decide)), ← Nat.pow_add, sum]
    exact lower
  obtain ⟨first, next⟩ := take_getElem?_reverse_digits length
  rw [← same] at first
  have half : rounded = _ := roundHalfUp_pow significand more
  rw [number] at half
  rw [firstDigits, first, next, Option.any_some, List.reverse_reverse]
  by_cases five : 5 ≤ significand / 10 ^ more % 10
  · rw [if_pos five] at half
    rw [if_pos (decide_eq_true five)]
    rcases raiseLast_cases small least with ⟨carries, full, zeros⟩ | ⟨stops, fewer, digits⟩
    · -- a one is put in front of the zeros, and one of them is cut off
      obtain ⟨others, rfl⟩ := Nat.exists_eq_add_one_of_ne_zero (Nat.ne_of_gt some_digit)
      rw [keptLength] at full zeros
      rw [if_pos (half.trans full), nat_digits_pow]
      simp [carries, zeros]
    · rw [keptLength, ← half] at fewer
      rw [← half] at digits
      rw [if_neg (Nat.ne_of_lt fewer)]
      simp [stops, digits]
  · rw [if_neg five, Nat.add_zero] at half
    have fewer := Nat.ofDigits_lt_base_pow_length (by decide : 1 < 10) small
    rw [keptLength, ← half] at fewer
    have digits := eq_nat_digits small least
    rw [← half] at digits
    rw [if_neg (mt of_decide_eq_true five), if_neg (Nat.ne_of_lt fewer), digits]

/-! ## Exponential notation -/

/-- A text is split at the first of a character. -/
theorem splitOnce?_append_cons {separator : Char} {before : List Char} (absent : separator ∉ before)
    (behind : List Char) :
    splitOnce? separator (before ++ separator :: behind) = some (before, behind) := by
  have other : ∀ c ∈ before, (c != separator) = true := by
    intro c member
    rw [bne_iff_ne]
    rintro rfl
    exact absent member
  rw [splitOnce?, List.dropWhile_append_of_pos other, List.takeWhile_append_of_pos other]
  simp

/-- Digits have no sign. -/
theorem splitSign_digits (value : Nat) : splitSign (digits value) = (false, digits value) := by
  have digit (c : Char) (member : c ∈ digits value) : c.isDigit = true :=
    isDigit_of_mem_digits member
  unfold splitSign
  split
  · rename_i rest same
    exact absurd (digit '-' (by simp [same])) (by decide)
  · rename_i rest same
    exact absurd (digit '+' (by simp [same])) (by decide)
  · rfl

/-- **A whole number of 32 bits is read back.** -/
theorem int32?_signedText {value : Int} (range : value.natAbs < 2 ^ (31 : Nat)) :
    int32? (signedText value) = some value := by
  have something : (digits value.natAbs).isEmpty = false :=
    List.isEmpty_eq_false_iff.mpr Nat.toDigits_ne_nil
  have all : (digits value.natAbs).all Char.isDigit = true :=
    List.all_eq_true.mpr fun c member => isDigit_of_mem_digits member
  have read : Nat.ofDigitChars 10 (digits value.natAbs) 0 = value.natAbs :=
    Nat.ofDigitChars_toDigits (by decide) (by decide)
  unfold signedText
  split
  · have opposite : -(value.natAbs : Int) = value := by omega
    simp only [int32?, splitSign, something, all, read, Nat.le_of_lt range, opposite,
      Bool.not_true, Bool.or_false, Bool.false_eq_true, if_true, if_false]
  · have same : (value.natAbs : Int) = value := by omega
    simp only [int32?, splitSign_digits, something, all, read, range, same, Bool.not_true,
      Bool.or_false, Bool.false_eq_true, if_true, if_false]

/-- A text with the digits of a number is read as these digits. -/
theorem digitValues_eq {text : List Char} {value : Nat} (positive : 0 < value)
    (kept : text.filter Char.isDigit = digits value) :
    digitValues text = (Nat.digits 10 value).reverse := by
  rw [digitValues, kept, digits_eq_map positive, List.map_map]
  refine (List.map_congr_left fun digit member => ?_).trans (List.map_id _)
  have small : digit < 10 := Nat.digits_lt_base (by decide) (List.mem_reverse.mp member)
  exact Nat.toNat_digitChar_sub_48_of_lt_ten small

/-- **What is written in exponential notation is read back.** -/
theorem readNotation_scientificText {significand : Nat} {exponent : Int}
    (positive : 0 < significand) (range : exponent.natAbs < 2 ^ (31 : Nat)) :
    readNotation (scientificText significand exponent) =
      ((Nat.digits 10 significand).reverse, exponent) := by
  have digit (c : Char) (member : c ∈ digits significand) : c.isDigit = true :=
    isDigit_of_mem_digits member
  have noLetter : 'e' ∉ digits significand := fun member => absurd (digit 'e' member) (by decide)
  -- the point is no digit and no letter
  obtain ⟨mantissa, text, letter, kept⟩ : ∃ mantissa,
      scientificText significand exponent = mantissa ++ 'e' :: signedText exponent ∧
      'e' ∉ mantissa ∧ mantissa.filter Char.isDigit = digits significand := by
    refine ⟨_, rfl, ?_⟩
    split
    · rename_i first second rest same
      rw [same] at digit noLetter ⊢
      refine ⟨by simpa using noLetter, ?_⟩
      have others : (second :: rest).filter Char.isDigit = second :: rest :=
        List.filter_eq_self.mpr fun c member => digit c (List.mem_cons_of_mem first member)
      rw [List.filter_cons_of_pos (digit first (by simp)), List.filter_cons_of_neg (by decide),
        others]
    · exact ⟨noLetter, List.filter_eq_self.mpr digit⟩
  rw [readNotation, text, splitOnce?_append_cons letter]
  simp only [Option.getD_some, digitValues_eq positive kept, int32?_signedText range]

/-! ## Magnitudes -/

/-- **The expansion of a magnitude is exact.** Scaled to as many digits before the point as are
written, a magnitude is a whole number: its significand has no more than 53 bits, and a power of two
that is too small to make it whole leaves it too small for so many digits. -/
theorem Magnitude.unitsPerOne_dvd_scaled {magnitude : Magnitude} {scale : Nat}
    (large : 10 ^ exactPlaces * unitsPerOne ≤ magnitude.units * 10 ^ scale) :
    unitsPerOne ∣ magnitude.units * 10 ^ scale := by
  obtain ⟨significand, shift, units, -, bits, -⟩ := exists_significand magnitude.aligned
  have factors : magnitude.units * 10 ^ scale = significand * 5 ^ scale * 2 ^ (shift + scale) := by
    rw [units, show 10 = 5 * 2 from rfl, Nat.mul_pow, Nat.pow_add]
    simp only [Nat.mul_assoc, Nat.mul_comm, Nat.mul_left_comm]
  rw [factors] at large ⊢
  by_cases whole : unitExponent ≤ shift + scale
  · exact Nat.dvd_mul_left_of_dvd (Nat.pow_dvd_pow 2 whole) _
  · exfalso
    have fewer : scale ≤ 1073 := by
      rw [unitExponent_eq] at whole
      omega
    have power := Nat.pow_le_pow_right (show 0 < 5 by decide) fewer
    have product := Nat.mul_le_mul (Nat.le_of_lt bits) power
    have short : 2 ^ (53 : Nat) * 5 ^ (1073 : Nat) < 10 ^ exactPlaces := by decide +kernel
    have factor : 2 ^ (shift + scale) ≤ unitsPerOne :=
      Nat.pow_le_pow_right (by decide) (Nat.le_of_not_le whole)
    have below : significand * 5 ^ scale * 2 ^ (shift + scale) < 10 ^ exactPlaces * unitsPerOne :=
      Nat.mul_lt_mul_of_lt_of_le (Nat.lt_of_le_of_lt product short) factor unitsPerOne_pos
    exact absurd large (Nat.not_le.mpr below)

/-- **What is read off the expansion of a magnitude**: its 801 digits, and the exponent of the
first. -/
theorem Magnitude.exists_expansion_eq {magnitude : Magnitude} (positive : 0 < magnitude.units) :
    ∃ significand scale : Nat,
      (scale : Int) = exactPlaces - decimalExponent magnitude.units unitsPerOne ∧
      magnitude.units * 10 ^ scale = significand * unitsPerOne ∧
      10 ^ exactPlaces ≤ significand ∧ significand < 10 ^ (exactPlaces + 1) ∧
      magnitude.expansion =
        ((Nat.digits 10 significand).reverse, decimalExponent magnitude.units unitsPerOne) := by
  have range := exponent_bounds positive
  have some_digit : 0 < exactPlaces + 1 := Nat.succ_pos exactPlaces
  have scaled := scaled_bounds some_digit positive unitsPerOne_pos
  dsimp only at scaled
  obtain ⟨scale, exact⟩ : ∃ scale : Nat,
      (exactPlaces : Int) - decimalExponent magnitude.units unitsPerOne = scale :=
    Int.eq_ofNat_of_zero_le (by rw [exactPlaces]; omega)
  have same : ((exactPlaces + 1 : Nat) : Int) - 1 -
      decimalExponent magnitude.units unitsPerOne = scale := by omega
  rw [same, if_pos (Int.natCast_nonneg scale), Int.toNat_natCast, Nat.add_sub_cancel] at scaled
  obtain ⟨significand, product⟩ := unitsPerOne_dvd_scaled scaled.1
  have whole : magnitude.units * 10 ^ scale = significand * unitsPerOne :=
    product.trans (Nat.mul_comm _ _)
  rw [whole] at scaled
  have lower := Nat.le_of_mul_le_mul_right scaled.1 unitsPerOne_pos
  have upper := Nat.lt_of_mul_lt_mul_right scaled.2
  refine ⟨significand, scale, exact.symm, whole, lower, upper, ?_⟩
  have written : exponentialNotation exactPlaces magnitude.units unitsPerOne =
      scientificText significand (decimalExponent magnitude.units unitsPerOne) := by
    simp only [exponentialNotation, exact, Int.natCast_nonneg, if_true, Int.toNat_natCast, whole,
      nearestEven_mul_left significand unitsPerOne_pos, if_neg (Nat.ne_of_lt upper)]
  have first : 0 < significand := Nat.lt_of_lt_of_le (Nat.pow_pos (by decide)) lower
  rw [expansion, written, readNotation_scientificText first (by omega)]

/-! ## Rounding -/

/-- Rounding does not depend on a common factor. -/
theorem roundHalfUp_scale (numerator denominator : Nat) {factor : Nat} (positive : 0 < factor) :
    roundHalfUp (numerator * factor) (denominator * factor) =
      roundHalfUp numerator denominator := by
  rw [roundHalfUp, roundHalfUp, ← Nat.mul_assoc, ← Nat.mul_assoc, ← Nat.add_mul,
    Nat.mul_div_mul_right _ _ positive]

/-- A quotient that one power of ten scales to a whole number is rounded at another scale as that
number is when it is scaled back by the difference. -/
theorem roundHalfUp_of_whole {numerator denominator whole scale cut : Nat}
    (positive : 0 < denominator) (exact : numerator * 10 ^ scale = whole * denominator)
    {other : Int} (difference : (scale : Int) = other + cut) :
    (if 0 ≤ other then roundHalfUp (numerator * 10 ^ other.toNat) denominator
      else roundHalfUp numerator (denominator * 10 ^ (-other).toNat)) =
        roundHalfUp whole (10 ^ cut) := by
  have cutPower : 0 < 10 ^ cut := Nat.pow_pos (by decide)
  have scalePower : 0 < 10 ^ scale := Nat.pow_pos (by decide)
  rw [← roundHalfUp_scale whole (10 ^ cut) positive, ← exact, Nat.mul_comm (10 ^ cut)]
  split
  · have sum : scale = other.toNat + cut := by omega
    rw [← roundHalfUp_scale _ denominator cutPower, Nat.mul_assoc, ← Nat.pow_add, sum]
  · have sum : cut = (-other).toNat + scale := by omega
    rw [← roundHalfUp_scale numerator _ scalePower, Nat.mul_assoc, ← Nat.pow_add, sum]

/-- **Reading digits off the exact expansion is rounding the quotient.** A magnitude has the digits
and the exponent of the quotient rounded to as many significant digits. -/
theorem Magnitude.roundedTo_eq {magnitude : Magnitude} (positive : 0 < magnitude.units)
    {count : Nat} (some_digit : 0 < count) (few : count ≤ exactPlaces) :
    magnitude.roundedTo count =
      (roundSignificant count magnitude.units unitsPerOne).shown := by
  obtain ⟨significand, scale, exact, whole, lower, upper, read⟩ := exists_expansion_eq positive
  obtain ⟨more, rest⟩ := Nat.exists_eq_add_of_le few
  rw [rest] at lower upper exact
  have difference : (scale : Int) =
      (count : Int) - 1 - decimalExponent magnitude.units unitsPerOne + (more + 1 : Nat) := by omega
  have rounded := roundHalfUp_of_whole unitsPerOne_pos whole difference
  have kept := firstDigits_eq some_digit lower upper
    (decimalExponent magnitude.units unitsPerOne)
  have shown (value : Nat) (exponent : Int) (nonzero : 0 < value) :
      (⟨(Nat.digits 10 value).reverse.map Nat.digitChar, exponent⟩ : Rounded) =
        Scientific.shown ⟨value, exponent⟩ := by
    rw [← digits_eq_map nonzero]
    rfl
  have least : 0 < (roundSignificant count magnitude.units unitsPerOne).significand :=
    Nat.lt_of_lt_of_le (Nat.pow_pos (by decide))
      (roundSignificant_bounds some_digit positive unitsPerOne_pos).1.1
  simp only [roundedTo, read, kept, roundSignificant, rounded] at least ⊢
  split
  · exact shown _ _ (Nat.pow_pos (by decide))
  · rename_i fewer
    rw [if_neg fewer] at least
    exact shown _ _ least

/-- Both zeros have the same text. -/
theorem resultText_of_units_eq_zero (negative : Bool) {magnitude : Magnitude}
    (zero : magnitude.units = 0) : resultText negative magnitude = ['0'] :=
  if_pos zero

/-- The result of a number other than zero is its sign and the text of its twelve digits. -/
theorem resultText_of_pos {magnitude : Magnitude} (positive : 0 < magnitude.units)
    (negative : Bool) : resultText negative magnitude =
      if negative then '-' :: magnitude.rounded.text else magnitude.rounded.text := by
  have digits : magnitude.roundedTo resultDigits = magnitude.rounded.shown :=
    Magnitude.roundedTo_eq positive (by decide) (by decide)
  rw [resultText, if_neg (Nat.ne_of_gt positive), digits]
  rfl

end PocketCalc
