import PocketCalc.Proofs.Binary64.Interval
import PocketCalc.Proofs.Decimal.Layout

/-! # The text of a number reads back

The text of a finite number without sign has digits and at most one point, which stands between
digits, and never an exponent. Read again it names the same number: the decimal was chosen from the
interval of quotients that round to it, and where none of at most seventeen digits was found it is
exact.

* **`Names`** — a whole part and places that name a number.
* **`Decimal.nearest`** — the number that a decimal names.
* **`Decimal.exists_positional_eq`** — the layout names the same number.
* **`Magnitude.nearest_shortest`** — the shortest decimal names its magnitude.
* **`Binary64.exists_text_eq`** — the text of a number, and what it names. -/

namespace PocketCalc

-- Powers are those of the core library, also where another instance of `Pow` is known. For that, a
-- numeral in an exponent has its type written.
attribute [local instance (high)] instPowNat

/-! ## Quotients -/

namespace Binary64

/-- Equal quotients round to the same number. -/
theorem ofRatio_congr (negative : Bool) {numerator denominator other divisor : Nat}
    (denominator_pos : 0 < denominator) (divisor_pos : 0 < divisor)
    (cross : numerator * divisor = other * denominator) :
    ofRatio negative numerator denominator = ofRatio negative other divisor := by
  rw [← ofRatio_scale negative numerator denominator divisor_pos, cross,
    Nat.mul_comm denominator, ofRatio_scale negative other divisor denominator_pos]

end Binary64

/-! ## Names of numbers -/

/-- **A whole part and places that name a number**: the nearest one to their digits, scaled by the
number of places. -/
structure Names (whole places : List Char) (value : Binary64) : Prop where
  /-- There is a whole part. -/
  something : whole ≠ []
  /-- The whole part is made of digits. -/
  wholeDigits : ∀ c ∈ whole, c.isDigit = true
  /-- The places are digits. -/
  placesDigits : ∀ c ∈ places, c.isDigit = true
  /-- The number is the nearest one. -/
  named : .ofDecimal (Nat.ofDigitChars 10 (whole ++ places) 0) places.length = value

namespace Decimal

/-- **The number that a decimal names**: the nearest one to its significand, scaled by its power of
ten. -/
def nearest (decimal : Decimal) : Binary64 :=
  .ofRatio false (decimal.significand * 10 ^ decimal.exponent.toNat * unitsPerOne)
    (10 ^ (-decimal.exponent).toNat)

/-- A whole number is laid out with zeros behind its digits and without places. -/
theorem exists_positional_eq_of_nonneg {decimal : Decimal} (nonneg : 0 ≤ decimal.exponent) :
    ∃ whole, decimal.positional = decimalText whole [] ∧ Names whole [] decimal.nearest := by
  have something : digits decimal.significand ≠ [] := Nat.toDigits_ne_nil
  have noPlaces : (-decimal.exponent).toNat = 0 := by omega
  refine ⟨_, if_pos nonneg, List.append_ne_nil_of_left_ne_nil something _, ?_, by simp, ?_⟩
  · intro c member
    rcases List.mem_append.mp member with digit | zero
    · exact isDigit_of_mem_digits digit
    · rw [List.eq_of_mem_replicate zero]
      rfl
  · have read := ofDigitChars_zeros_digits 0 decimal.significand
    rw [List.replicate_zero, List.nil_append] at read
    rw [List.append_nil, Nat.ofDigitChars_append, Nat.ofDigitChars_replicate_zero, read, nearest,
      noPlaces, Nat.mul_comm (10 ^ _)]
    rfl

/-- Any other number is laid out with as many places as its exponent says. -/
theorem exists_positional_eq_of_neg {decimal : Decimal} (negative : decimal.exponent < 0) :
    ∃ whole places, decimal.positional = decimalText whole places ∧
      Names whole places decimal.nearest := by
  have noZeros : decimal.exponent.toNat = 0 := by omega
  have some_place : 0 < (-decimal.exponent).toNat := by omega
  have named : Binary64.ofDecimal decimal.significand (-decimal.exponent).toNat =
      decimal.nearest := by
    rw [nearest, noZeros, Nat.pow_zero, Nat.mul_one]
    rfl
  have shown : decimal.positional =
      if (digits decimal.significand).length ≤ (-decimal.exponent).toNat then
        '0' :: '.' :: (List.replicate ((-decimal.exponent).toNat -
          (digits decimal.significand).length) '0' ++ digits decimal.significand)
      else
        (digits decimal.significand).take
            ((digits decimal.significand).length - (-decimal.exponent).toNat) ++
          '.' :: (digits decimal.significand).drop
            ((digits decimal.significand).length - (-decimal.exponent).toNat) :=
    if_neg (Int.not_le.mpr negative)
  have read (zeros : Nat) := ofDigitChars_zeros_digits zeros decimal.significand
  rw [shown]
  generalize (-decimal.exponent).toNat = places at some_place named
  split
  · -- zeros stand between the point and the digits
    rename_i short
    have behind : List.replicate (places - (digits decimal.significand).length) '0' ++
        digits decimal.significand ≠ [] :=
      List.append_ne_nil_of_right_ne_nil _ Nat.toDigits_ne_nil
    refine ⟨['0'], _, (decimalText_of_ne_nil ['0'] behind).symm, by simp, by simp,
      fun c member => isDigit_of_mem_zeros_digits member, ?_⟩
    rw [List.singleton_append, ← List.cons_append, ← List.replicate_succ, read, List.length_append,
      List.length_replicate, Nat.sub_add_cancel short, named]
  · -- the point divides the digits
    rename_i long
    have behind : (digits decimal.significand).drop
        ((digits decimal.significand).length - places) ≠ [] := by
      rw [← List.length_pos_iff, List.length_drop]
      omega
    refine ⟨_, _, (decimalText_of_ne_nil _ behind).symm, ?_,
      fun c member => isDigit_of_mem_digits (List.mem_of_mem_take member),
      fun c member => isDigit_of_mem_digits (List.mem_of_mem_drop member), ?_⟩
    · rw [← List.length_pos_iff, List.length_take]
      omega
    · have whole := read 0
      rw [List.replicate_zero, List.nil_append] at whole
      have count : (digits decimal.significand).length -
          ((digits decimal.significand).length - places) = places := by omega
      rw [List.take_append_drop, whole, List.length_drop, count, named]

/-- **A decimal is laid out as a whole part and places** that name the same number. -/
theorem exists_positional_eq (decimal : Decimal) :
    ∃ whole places, decimal.positional = decimalText whole places ∧
      Names whole places decimal.nearest := by
  rcases Int.lt_or_le decimal.exponent 0 with negative | nonneg
  · exact exists_positional_eq_of_neg negative
  · obtain ⟨whole, shown, names⟩ := exists_positional_eq_of_nonneg nonneg
    exact ⟨whole, [], shown, names⟩

end Decimal

/-! ## The shortest decimal -/

/-- One digit and a higher place name the same number as that digit with zeros. -/
theorem Decimal.nearest_normal (significand count : Nat) (place : Int) :
    (normal significand count place).nearest = (⟨significand, place⟩ : Decimal).nearest := by
  unfold normal
  split
  · rename_i power
    refine Binary64.ofRatio_congr false (Nat.pow_pos (by decide)) (Nat.pow_pos (by decide)) ?_
    have exponents : (place + count).toNat + (-place).toNat =
        count + place.toNat + (-(place + count)).toNat := by omega
    dsimp only
    rw [power, Nat.one_mul, Nat.mul_right_comm, ← Nat.pow_add, exponents, Nat.pow_add,
      Nat.pow_add, Nat.mul_right_comm]
  · rfl

/-- **What is hit names the magnitude**, since it lies in the rounding interval. -/
theorem Magnitude.nearest_of_hit? {magnitude : Magnitude} {count : Nat} {decimal : Decimal}
    (hit : magnitude.hit? count = some decimal) : decimal.nearest = .finite false magnitude := by
  have inside (significand : Nat) (place : Int)
      (inside : magnitude.interval.contains (4 * (significand * (unitsPerOne * 10 ^ place.toNat)))
        (10 ^ (-place).toNat) = true) :
      (Decimal.normal significand count place).nearest = .finite false magnitude := by
    rw [Decimal.nearest_normal, Decimal.nearest, Nat.mul_assoc, Nat.mul_comm (10 ^ place.toNat)]
    exact Binary64.ofRatio_of_contains false (Nat.pow_pos (by decide)) inside
  unfold hit? at hit
  dsimp only at hit
  split at hit
  · rename_i below
    obtain rfl := Option.some.inj hit
    exact inside _ _ (Bool.and_eq_true_iff.mp below).1
  split at hit
  · rename_i above
    obtain rfl := Option.some.inj hit
    exact inside _ _ above
  · cases hit

/-- The exact decimal names its magnitude. -/
theorem Magnitude.nearest_exactDecimal (magnitude : Magnitude) :
    magnitude.exactDecimal.nearest = .finite false magnitude := by
  have places : (-(-(unitExponent : Int))).toNat = unitExponent := by omega
  have noZeros : (-(unitExponent : Int)).toNat = 0 := by omega
  have ten : 5 ^ unitExponent * 2 ^ unitExponent = 10 ^ unitExponent := (Nat.mul_pow 5 2 _).symm
  have scaled := Binary64.ofRatio_scale false magnitude.units 1
    (show 0 < 10 ^ unitExponent from Nat.pow_pos (by decide))
  rw [exactDecimal, Decimal.nearest]
  dsimp only
  rw [places, noZeros, Nat.pow_zero, Nat.mul_one, unitsPerOne, Nat.mul_assoc, ten,
    ← Binary64.ofRatio_units, ← scaled, Nat.one_mul]

/-- **The shortest decimal names its magnitude.** -/
theorem Magnitude.nearest_shortest (magnitude : Magnitude) :
    magnitude.shortest.nearest = .finite false magnitude := by
  unfold shortest
  cases found : (List.range' 1 17).findSome? magnitude.hit? with
  | none => exact magnitude.nearest_exactDecimal
  | some decimal =>
    obtain ⟨count, -, hit⟩ := List.exists_of_findSome?_eq_some found
    exact nearest_of_hit? hit

/-- **The text of a number without sign**: a whole part, with or without places, that names the
number. -/
theorem Binary64.exists_text_eq (magnitude : Magnitude) :
    ∃ whole places, (finite false magnitude).text = decimalText whole places ∧
      Names whole places (finite false magnitude) := by
  by_cases zero : magnitude.units = 0
  · refine ⟨['0'], [], ?_, by simp, by simp, by simp, ?_⟩
    · rw [text, if_pos zero]
      rfl
    · have same : magnitude = .zero := by
        obtain ⟨units, aligned, bounded⟩ := magnitude
        subst zero
        rfl
      rw [same]
      exact ofDecimal_zero
  · obtain ⟨whole, places, shown, names⟩ := magnitude.shortest.exists_positional_eq
    rw [magnitude.nearest_shortest] at names
    refine ⟨whole, places, ?_, names⟩
    rw [text, if_neg zero, ← shown]
    rfl

end PocketCalc
