import PocketCalc.Proofs.Decimal.Expansion

/-! # The layout of a result text

A result without exponent is a whole part with or without places behind a point. The zeros at the
end of the places are dropped, which changes the number of places but not the number that they
write: significand and exponent can be told from the text.

* **`decimalText`** — a whole part with its places.
* **`dropTrailingZeros_point`** — what is left when the zeros are dropped.
* **`Scientific.LaidOut`** — the parts of a text without exponent, and what they say.
* **`Scientific.Trimmed`** — how these parts are made of the digits.
* **`Scientific.exists_laidOut`** — every such text has these parts.
* **`mem_resultText`** — the characters of a result.
* **`length_resultText_le`** — no result text has more than twenty characters. -/

namespace PocketCalc

-- Powers are those of the core library, also where another instance of `Pow` is known. For that, a
-- numeral in an exponent has its type written.
attribute [local instance (high)] instPowNat

/-! ## Places -/

/-- **A decimal number as it is written**: its whole part, and behind a point its places, if it has
any. -/
def decimalText (whole places : List Char) : List Char :=
  if places.isEmpty then whole else whole ++ '.' :: places

/-- Without places there is no point. -/
@[simp] theorem decimalText_nil (whole : List Char) : decimalText whole [] = whole := rfl

/-- With places there is one. -/
theorem decimalText_of_ne_nil (whole : List Char) {places : List Char} (something : places ≠ []) :
    decimalText whole places = whole ++ '.' :: places := by
  rw [decimalText, if_neg (mt List.isEmpty_iff.mp something)]

/-- The characters of a decimal number are those of its parts and the point. -/
theorem mem_decimalText {whole places : List Char} {c : Char}
    (member : c ∈ decimalText whole places) : c ∈ whole ∨ c = '.' ∨ c ∈ places := by
  unfold decimalText at member
  split at member
  · exact .inl member
  · simpa using member

/-- Digits are taken up to what stands behind them. -/
theorem span_isDigit {text : List Char} (digits : ∀ c ∈ text, c.isDigit = true) (rest : List Char)
    (stops : rest.takeWhile Char.isDigit = []) :
    (text ++ rest).takeWhile Char.isDigit = text ∧
      (text ++ rest).dropWhile Char.isDigit = rest := by
  rw [List.takeWhile_append_of_pos digits, List.dropWhile_append_of_pos digits, stops,
    List.append_nil]
  have whole := List.takeWhile_append_dropWhile (p := Char.isDigit) (l := rest)
  rw [stops, List.nil_append] at whole
  exact ⟨rfl, whole⟩

/-- The whole part of a decimal number goes up to the point. -/
theorem span_decimalText {whole : List Char} (digits : ∀ c ∈ whole, c.isDigit = true)
    (places : List Char) :
    (decimalText whole places).takeWhile Char.isDigit = whole ∧
      (decimalText whole places).dropWhile Char.isDigit =
        if places.isEmpty then [] else '.' :: places := by
  cases places with
  | nil =>
    have span := span_isDigit digits [] rfl
    rwa [List.append_nil] at span
  | cons c rest => exact span_isDigit digits ('.' :: c :: rest) rfl

/-- **Dropping trailing zeros** takes them all off the places, and the point goes with the last
place. -/
theorem dropTrailingZeros_point (whole : List Char) {places : List Char}
    (digits : ∀ c ∈ places, c.isDigit = true) :
    ∃ kept zeros, places = kept ++ List.replicate zeros '0' ∧ kept.getLast? ≠ some '0' ∧
      dropTrailingZeros (whole ++ '.' :: places) = decimalText whole kept := by
  have split : places.reverse = places.reverse.takeWhile (· == '0') ++
      places.reverse.dropWhile (· == '0') := (List.takeWhile_append_dropWhile).symm
  have zeros : places.reverse.takeWhile (· == '0') =
      List.replicate (places.reverse.takeWhile (· == '0')).length '0' := by
    rw [List.eq_replicate_iff]
    refine ⟨rfl, fun c member => ?_⟩
    exact beq_iff_eq.mp (List.all_eq_true.mp List.all_takeWhile c member)
  have stopped : ((whole ++ '.' :: places).reverse).dropWhile (· == '0') =
      places.reverse.dropWhile (· == '0') ++ '.' :: whole.reverse := by
    rw [List.reverse_append, List.reverse_cons, List.append_assoc, List.dropWhile_append]
    split
    · rename_i nothing
      rw [List.isEmpty_iff.mp nothing]
      rfl
    · rfl
  refine ⟨(places.reverse.dropWhile (· == '0')).reverse,
    (places.reverse.takeWhile (· == '0')).length, ?_, ?_, ?_⟩
  · rw [← List.reverse_inj, List.reverse_append, List.reverse_reverse, List.reverse_replicate,
      ← zeros, ← split]
  · intro last
    have other := List.head?_dropWhile_not (· == '0') places.reverse
    rw [List.getLast?_reverse] at last
    rw [last] at other
    exact absurd other (by decide)
  · rw [dropTrailingZeros, if_pos (by simp), stopped]
    cases rest : places.reverse.dropWhile (· == '0') with
    | nil => simp
    | cons last others =>
      -- what is left of the places begins with a digit, so the point is not the next character
      have member : last ∈ places := by
        rw [← List.mem_reverse, split, rest]
        simp
      have other : last ≠ '.' := by
        rintro rfl
        exact absurd (digits _ member) (by decide)
      rw [decimalText_of_ne_nil _ (by simp)]
      split
      · rename_i same
        exact absurd (List.cons_eq_cons.mp same).1 other
      · simp

/-! ## Texts without exponent -/

/-- Zeros and the digits of a number are digits. -/
theorem isDigit_of_mem_zeros_digits {zeros value : Nat} {c : Char}
    (member : c ∈ List.replicate zeros '0' ++ digits value) : c.isDigit = true := by
  rcases List.mem_append.mp member with zero | digit
  · rw [List.eq_of_mem_replicate zero]
    rfl
  · exact isDigit_of_mem_digits digit

/-- The digits of a number, with zeros before them or not, are read as the number. -/
theorem ofDigitChars_zeros_digits (zeros value : Nat) :
    Nat.ofDigitChars 10 (List.replicate zeros '0' ++ digits value) 0 = value := by
  rw [Nat.ofDigitChars_append, Nat.ofDigitChars_replicate_zero, Nat.mul_zero, digits,
    Nat.ofDigitChars_toDigits (by decide) (by decide)]

namespace Scientific

/-- **The parts of a text without exponent**: a whole part and places, which together write the
significand without its last zeros, and as many places as the exponent leaves behind the point,
less these zeros. -/
structure LaidOut (number : Scientific) (whole places : List Char) : Prop where
  /-- There is a whole part. -/
  something : whole ≠ []
  /-- The whole part is made of digits. -/
  wholeDigits : ∀ c ∈ whole, c.isDigit = true
  /-- The places are digits. -/
  placesDigits : ∀ c ∈ places, c.isDigit = true
  /-- The digits are those of the significand, and say where the point is. -/
  value : ∃ zeros, number.significand = Nat.ofDigitChars 10 (whole ++ places) 0 * 10 ^ zeros ∧
    ((places.length + zeros : Nat) : Int) = (resultDigits : Int) - 1 - number.exponent
  /-- The text is made of the parts. -/
  text : number.text = decimalText whole places

/-- **Where a number of twelve digits has no exponent**, its text is that of a whole part and places
before the zeros are dropped. The two write the digits, behind zeros or not; only the whole part `0`
begins with a zero. -/
theorem exists_fixed_eq {number : Scientific}
    (twelve : (PocketCalc.digits number.significand).length = resultDigits)
    (near : number.isExponential = false) :
    ∃ leading whole places, number.fixed = dropTrailingZeros (whole ++ '.' :: places) ∧
      whole ++ places = List.replicate leading '0' ++ PocketCalc.digits number.significand ∧
      (whole = ['0'] ∨ leading = 0 ∧ whole ≠ []) ∧
      (places.length : Int) = (resultDigits : Int) - 1 - number.exponent := by
  simp only [isExponential_eq, Bool.or_eq_false_iff, decide_eq_false_iff_not, Int.not_lt,
    Int.not_le] at near
  by_cases fraction : number.exponent < 0
  · -- zeros stand between the point and the digits
    refine ⟨(-number.exponent - 1).toNat + 1, ['0'], List.replicate (-number.exponent - 1).toNat '0'
      ++ PocketCalc.digits number.significand, ?_, ?_, .inl rfl, ?_⟩
    · rw [fixed_eq]
      simp only [fraction, if_true, List.singleton_append]
    · rw [List.singleton_append, List.replicate_succ, List.cons_append]
    · rw [List.length_append, List.length_replicate, twelve, resultDigits]
      omega
  · -- the point divides the digits
    obtain ⟨exponent, exact⟩ := Int.eq_ofNat_of_zero_le (Int.not_lt.mp fraction)
    rw [exact, resultDigits] at near
    refine ⟨0, (PocketCalc.digits number.significand).take (exponent + 1),
      (PocketCalc.digits number.significand).drop (exponent + 1), ?_, ?_, .inr ⟨rfl, ?_⟩, ?_⟩
    · rw [fixed_eq, if_neg fraction, exact]
      rfl
    · rw [List.take_append_drop, List.replicate_zero, List.nil_append]
    · intro nothing
      have count := congrArg List.length nothing
      rw [List.length_take, twelve, resultDigits] at count
      simp at count
    · rw [List.length_drop, twelve, resultDigits, exact]
      omega

/-- **What dropping the zeros leaves of a text without exponent**, given how many zeros stand before
the digits of the significand and how many are dropped behind them. -/
structure Trimmed (number : Scientific) (whole places : List Char) (leading dropped : Nat) :
    Prop where
  /-- The text is made of a whole part and places. -/
  text : number.text = decimalText whole places
  /-- With what is dropped they write the digits of the significand, behind zeros or not. -/
  spelled : whole ++ places ++ List.replicate dropped '0' =
    List.replicate leading '0' ++ PocketCalc.digits number.significand
  /-- Only the whole part `0` begins with a zero. -/
  first : whole = ['0'] ∨ leading = 0 ∧ whole ≠ []
  /-- The places do not end in a zero. -/
  last : places.getLast? ≠ some '0'
  /-- The exponent says how many places there were. -/
  count : ((places.length + dropped : Nat) : Int) = (resultDigits : Int) - 1 - number.exponent

/-- Every text without exponent is trimmed. -/
theorem exists_trimmed {number : Scientific}
    (significand : 10 ^ (11 : Nat) ≤ number.significand ∧ number.significand < 10 ^ (12 : Nat))
    (near : number.isExponential = false) :
    ∃ whole places leading dropped, number.Trimmed whole places leading dropped := by
  have twelve : (PocketCalc.digits number.significand).length = resultDigits :=
    length_digits_eq (by decide) significand.1 significand.2
  obtain ⟨leading, whole, all, shown, spelled, first, length⟩ := exists_fixed_eq twelve near
  have digits (c : Char) (member : c ∈ all) : c.isDigit = true :=
    isDigit_of_mem_zeros_digits (spelled ▸ List.mem_append_right whole member)
  obtain ⟨kept, zeros, rfl, last, dropped⟩ := dropTrailingZeros_point whole digits
  refine ⟨whole, kept, leading, zeros, ?_, ?_, first, last, ?_⟩
  · rw [text_eq, near, ← dropped, ← shown]
    rfl
  · rw [List.append_assoc, spelled]
  · rw [← length, List.length_append, List.length_replicate]

namespace Trimmed

variable {number : Scientific} {whole places : List Char} {leading dropped : Nat}
  (trimmed : number.Trimmed whole places leading dropped)

include trimmed

/-- There is a whole part. -/
theorem whole_ne_nil : whole ≠ [] := by
  rcases trimmed.first with rfl | ⟨-, something⟩
  · exact List.cons_ne_nil _ _
  · exact something

/-- The whole part and the places are made of digits. -/
theorem isDigit {c : Char} (member : c ∈ whole ++ places) : c.isDigit = true :=
  isDigit_of_mem_zeros_digits (trimmed.spelled ▸ List.mem_append_left _ member)

/-- **What is trimmed is laid out**: the zeros dropped are a factor of the significand. -/
theorem laidOut : number.LaidOut whole places where
  something := trimmed.whole_ne_nil
  wholeDigits := fun _ member => trimmed.isDigit (List.mem_append_left _ member)
  placesDigits := fun _ member => trimmed.isDigit (List.mem_append_right _ member)
  value := by
    refine ⟨dropped, ?_, trimmed.count⟩
    have read := ofDigitChars_zeros_digits leading number.significand
    rw [← trimmed.spelled, Nat.ofDigitChars_append, Nat.ofDigitChars_replicate_zero,
      Nat.mul_comm] at read
    exact read.symm
  text := trimmed.text

end Trimmed

/-- **Every text without exponent has these parts.** -/
theorem exists_laidOut {number : Scientific}
    (significand : 10 ^ (11 : Nat) ≤ number.significand ∧ number.significand < 10 ^ (12 : Nat))
    (near : number.isExponential = false) : ∃ whole places, number.LaidOut whole places := by
  obtain ⟨whole, places, leading, dropped, trimmed⟩ := exists_trimmed significand near
  exact ⟨whole, places, trimmed.laidOut⟩

/-- A text with an exponent has digits and a point before the letter, and a sign and digits behind
it. -/
theorem exists_exponential_eq (number : Scientific) :
    ∃ before after, number.exponential = before ++ 'e' :: after ∧
      (∀ c ∈ before, c.isDigit = true ∨ c = '.') ∧
      ∀ c ∈ after, c.isDigit = true ∨ c = '-' ∨ c = '+' := by
  have all (c : Char) (member : c ∈ PocketCalc.digits number.significand) : c.isDigit = true :=
    isDigit_of_mem_digits member
  refine ⟨_, _, rfl, ?_, ?_⟩
  · intro c member
    rcases List.mem_append.mp member with first | behind
    · exact .inl (all c (List.mem_of_mem_take first))
    · rcases List.mem_cons.mp behind with rfl | others
      · exact .inr rfl
      · exact .inl (all c (List.mem_of_mem_drop others))
  · intro c member
    rcases List.mem_cons.mp member with sign | digit
    · refine .inr ?_
      rw [sign]
      split
      · exact .inl rfl
      · exact .inr rfl
    · exact .inl (isDigit_of_mem_digits digit)

end Scientific

/-! ## Results -/

/-- **The characters of a result** are digits, signs, the point and the letter of the exponent. -/
theorem mem_resultText {negative : Bool} {magnitude : Magnitude} {c : Char}
    (member : c ∈ resultText negative magnitude) :
    c.isDigit = true ∨ c = '-' ∨ c = '+' ∨ c = '.' ∨ c = 'e' := by
  have number (positive : 0 < magnitude.units) (member : c ∈ magnitude.rounded.text) :
      c.isDigit = true ∨ c = '-' ∨ c = '+' ∨ c = '.' ∨ c = 'e' := by
    cases far : magnitude.rounded.isExponential with
    | false =>
      obtain ⟨whole, places, laidOut⟩ :=
        Scientific.exists_laidOut (Magnitude.rounded_bounds positive).1 far
      rw [laidOut.text] at member
      rcases mem_decimalText member with digit | rfl | digit
      · exact .inl (laidOut.wholeDigits c digit)
      · simp
      · exact .inl (laidOut.placesDigits c digit)
    | true =>
      obtain ⟨before, after, shown, mantissa, exponent⟩ :=
        magnitude.rounded.exists_exponential_eq
      rw [Scientific.text_eq, far, if_pos rfl, shown] at member
      rcases List.mem_append.mp member with first | behind
      · rcases mantissa c first with digit | rfl
        · exact .inl digit
        · simp
      · rcases List.mem_cons.mp behind with rfl | last
        · simp
        · rcases exponent c last with digit | rfl | rfl
          · exact .inl digit
          · simp
          · simp
  by_cases zero : magnitude.units = 0
  · rw [resultText_of_units_eq_zero negative zero, List.mem_singleton] at member
    exact .inl (by rw [member]; rfl)
  · have positive := Nat.pos_of_ne_zero zero
    rw [resultText_of_pos positive] at member
    split at member
    · rcases List.mem_cons.mp member with rfl | behind
      · simp
      · exact number positive behind
    · exact number positive member

/-- **No result text has more than twenty characters.** The longest are those of negative numbers
between a millionth and a hundred-thousandth, which are written without exponent. -/
theorem length_resultText_le (negative : Bool) (magnitude : Magnitude) :
    (resultText negative magnitude).length ≤ 20 := by
  by_cases zero : magnitude.units = 0
  · rw [resultText_of_units_eq_zero negative zero]
    exact (by decide : 1 ≤ 20)
  · have positive := Nat.pos_of_ne_zero zero
    obtain ⟨significand, lower, upper⟩ := Magnitude.rounded_bounds positive
    have size := Scientific.length_text_le significand (by omega)
    rw [resultText_of_pos positive]
    split
    · exact Nat.succ_le_succ size
    · exact Nat.le_succ_of_le size

end PocketCalc
