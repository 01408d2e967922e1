import PocketCalc.Proofs.Decimal.Rereading
import PocketCalc.Proofs.Expression.Denotation
import PocketCalc.Proofs.Typing.Agreement

/-! # Results are fixed points of evaluation

The text of a finite number, evaluated, gives itself again, if it has no exponent. Reading it need
not give the number that it was written for, but it gives one with the same twelve digits. The
letter of an exponent is foreign to expressions, so a text that has one is refused for it.

* **`Scientific.LaidOut.exists_magnitude`** — what a text without exponent is read as.
* **`evaluate_signed_number`** — evaluating a number with or without a sign.
* **`evaluate_of_exponent`** — evaluating a text with an exponent.
* **`evaluate_resultText`** — evaluating a result. -/

namespace PocketCalc

-- Powers are those of the core library, also where another instance of `Pow` is known. For that, a
-- numeral in an exponent has its type written.
attribute [local instance (high)] instPowNat

/-! ## Texts without exponent -/

/-- **A text of twelve digits without exponent is read as a number with these digits.** -/
theorem Scientific.LaidOut.exists_magnitude {number : Scientific} {whole places : List Char}
    (laidOut : number.LaidOut whole places)
    (significand : 10 ^ (11 : Nat) ≤ number.significand ∧ number.significand < 10 ^ (12 : Nat))
    (near : number.isExponential = false) :
    ∃ magnitude, decimalValue whole places = .finite false magnitude ∧
      0 < magnitude.units ∧ magnitude.rounded = number := by
  obtain ⟨zeros, written, count⟩ := laidOut.value
  simp only [isExponential_eq, Bool.or_eq_false_iff, decide_eq_false_iff_not, Int.not_lt,
    Int.not_le] at near
  rw [resultDigits] at count near
  -- the zeros that the text drops are put back, so that there are twelve digits
  obtain ⟨magnitude, read, positive, rounded⟩ := exists_magnitude_of_twelve_digits
    (places.length + zeros) significand.1 significand.2 (by omega)
  rw [written, Binary64.ofDecimal_scale] at read
  have exponent : (11 : Int) - (places.length + zeros : Nat) = number.exponent := by omega
  exact ⟨magnitude, read, positive, by rw [rounded, exponent]⟩

section Numbers

variable {whole places : List Char} (something : whole ≠ [])
  (wholeDigits : ∀ c ∈ whole, c.isDigit = true) (placesDigits : ∀ c ∈ places, c.isDigit = true)

include something wholeDigits placesDigits

/-- A number ends in a digit. -/
theorem exists_getLast?_decimalText :
    ∃ c, (decimalText whole places).getLast? = some c ∧ c.isDigit = true := by
  by_cases none : places = []
  · subst none
    exact ⟨_, List.getLast?_eq_some_getLast something, wholeDigits _ (List.getLast_mem something)⟩
  · refine ⟨_, ?_, placesDigits _ (List.getLast_mem none)⟩
    rw [decimalText_of_ne_nil _ none, List.append_cons, List.getLast?_append,
      List.getLast?_eq_some_getLast none, Option.some_or]

/-- **A number with or without a sign passes the first checks.** -/
theorem prepare_signed_number (sign : List Char) (signs : ∀ c ∈ sign, c = '-') :
    prepare (sign ++ decimalText whole places) =
      .ok (some (normalize (sign ++ decimalText whole places))) := by
  have characters : ∀ c ∈ sign ++ decimalText whole places,
      c = '-' ∨ c.isDigit = true ∨ c = '.' := by
    intro c member
    rcases List.mem_append.mp member with before | number
    · exact .inl (signs c before)
    · rcases mem_decimalText number with digit | point | digit
      · exact .inr (.inl (wholeDigits c digit))
      · exact .inr (.inr point)
      · exact .inr (.inl (placesDigits c digit))
  have typable : ∀ c ∈ sign ++ decimalText whole places, isTypable c = true := by
    intro c member
    rcases characters c member with rfl | digit | rfl
    · rfl
    · exact isTypable_iff.mpr (.inl digit)
    · rfl
  have balanced : openParens (sign ++ decimalText whole places) = 0 := by
    have without (parenthesis : Char) (other : parenthesis ≠ '-' ∧ parenthesis ≠ '.')
        (noDigit : parenthesis.isDigit = false) :
        (sign ++ decimalText whole places).count parenthesis = 0 := by
      rw [List.count_eq_zero]
      intro member
      rcases characters _ member with minus | digit | point
      · exact other.1 minus
      · rw [noDigit] at digit
        cases digit
      · exact other.2 point
    rw [openParens, without '(' (by decide) rfl, without ')' (by decide) rfl]
    rfl
  have ends : endsValue (sign ++ decimalText whole places).getLast? = true := by
    obtain ⟨c, last, digit⟩ := exists_getLast?_decimalText something wholeDigits placesDigits
    rw [List.getLast?_append, last, Option.some_or]
    exact endsValue_of_isDigit digit
  exact (prepare_eq_ok_iff_of_isTypable typable).mpr ⟨balanced, ends⟩

/-- **Evaluating a number with or without a sign.** -/
theorem evaluate_signed_number {magnitude : Magnitude}
    (read : decimalValue whole places = .finite false magnitude) (negative : Bool) :
    evaluate (if negative then '-' :: decimalText whole places else decimalText whole places) =
      .ok (some (resultText negative magnitude)) := by
  cases negative with
  | false =>
    have denotes := denotes_number something wholeDigits placesDigits
    have prepared := prepare_signed_number something wholeDigits placesDigits [] (by simp)
    rw [read] at denotes
    exact denotes.evaluate_eq prepared
  | true =>
    have denotes := denotes_minus_number something wholeDigits placesDigits
    have prepared := prepare_signed_number something wholeDigits placesDigits ['-'] (by simp)
    rw [read] at denotes
    exact denotes.evaluate_eq prepared

end Numbers

/-! ## Texts with exponent -/

/-- The characters of a result are normalized to themselves. -/
theorem normalize_resultText (negative : Bool) (magnitude : Magnitude) :
    normalize (resultText negative magnitude) = resultText negative magnitude := by
  refine normalize_eq_self fun c member => ?_
  rcases mem_resultText member with digit | rfl | rfl | rfl | rfl
  · exact ⟨plain_of_isDigit digit, ne_of_isDigit digit rfl⟩
  all_goals decide

/-- **A result with an exponent is refused for its letter**, the first character that is foreign to
expressions. -/
theorem evaluate_of_exponent {negative : Bool} {magnitude : Magnitude}
    (letter : 'e' ∈ resultText negative magnitude) :
    evaluate (resultText negative magnitude) = .error (.malformed (.unexpected 'e')) := by
  obtain ⟨before, after, shown, first⟩ := List.eq_append_cons_of_mem letter
  have visible : trim (resultText negative magnitude) ≠ [] := by
    intro blank
    cases trim_eq_nil_iff.mp blank 'e' letter
  have inside : ∀ c ∈ before, isExpressionChar c = true := by
    intro c member
    have found : c ∈ resultText negative magnitude := by simp [shown, member]
    rcases mem_resultText found with digit | rfl | rfl | rfl | rfl
    · simp [isExpressionChar, digit]
    · rfl
    · rfl
    · rfl
    · exact absurd member first
  have found : (resultText negative magnitude).find? (fun c => !isExpressionChar c) =
      some 'e' := by
    have none : before.find? (fun c => !isExpressionChar c) = none := by
      rw [List.find?_eq_none]
      intro c member
      simp [inside c member]
    rw [shown, List.find?_append, none, Option.none_or]
    rfl
  have refused : prepare (resultText negative magnitude) =
      .error (.malformed (.unexpected 'e')) := by
    simp only [prepare, normalize_resultText, found, List.isEmpty_iff, visible, if_false]
  rw [evaluate, refused]

/-! ## Results -/

/-- A text with an exponent has its letter. -/
theorem Scientific.letter_mem_text {number : Scientific} (far : number.isExponential = true) :
    'e' ∈ number.text := by
  obtain ⟨before, after, shown, -⟩ := number.exists_exponential_eq
  rw [text_eq, if_pos far, shown]
  simp

/-- **Results are fixed points of evaluation.** The text of a finite number that has no exponent is
its own result, and one that has an exponent is refused for the letter of the exponent. -/
theorem evaluate_resultText (negative : Bool) (magnitude : Magnitude) :
    let shown := resultText negative magnitude
    evaluate shown = if 'e' ∈ shown then .error (.malformed (.unexpected 'e'))
      else .ok (some shown) := by
  intro shown
  by_cases letter : 'e' ∈ shown
  · rw [if_pos letter]
    exact evaluate_of_exponent letter
  rw [if_neg letter]
  by_cases zero : magnitude.units = 0
  · have same : shown = ['0'] := resultText_of_units_eq_zero negative zero
    rw [same]
    have digits : Nat.ofDigitChars 10 (['0'] ++ []) 0 = 0 := rfl
    have read : decimalValue ['0'] [] = .finite false .zero := by
      rw [decimalValue, digits, List.length_nil, Binary64.ofDecimal_zero]
    have evaluated := evaluate_signed_number (List.cons_ne_nil _ _) (List.all_eq_true.mp rfl)
      (List.all_eq_true.mp rfl) read false
    have text : resultText false .zero = ['0'] := resultText_of_units_eq_zero false rfl
    rw [text] at evaluated
    exact evaluated
  · have positive := Nat.pos_of_ne_zero zero
    have text := resultText_of_pos positive negative
    obtain ⟨significand, -⟩ := Magnitude.rounded_bounds positive
    have near : magnitude.rounded.isExponential = false := by
      rw [← Bool.not_eq_true]
      intro far
      apply letter
      change 'e' ∈ resultText negative magnitude
      rw [text]
      split
      · exact List.mem_cons_of_mem _ (Scientific.letter_mem_text far)
      · exact Scientific.letter_mem_text far
    -- the number that is read has the same digits, so it is shown in the same way
    obtain ⟨whole, places, laidOut⟩ := Scientific.exists_laidOut significand near
    obtain ⟨nearest, read, units, rounded⟩ := laidOut.exists_magnitude significand near
    have evaluated := evaluate_signed_number laidOut.something laidOut.wholeDigits
      laidOut.placesDigits read negative
    rw [resultText_of_pos units, rounded, ← laidOut.text, ← text] at evaluated
    exact evaluated

end PocketCalc
