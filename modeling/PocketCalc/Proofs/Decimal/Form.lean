import Mathlib.Computability.RegularExpressions
import PocketCalc.Proofs.Decimal.Layout

/-! # The forms of a result text

A result text matches one of two regular expressions. Without an exponent, the whole part has no
zero before another digit, and the places, if there are any, do not end in a zero; with an exponent,
the first digit is not zero and neither is the exponent. Both follow from the digits of a number,
the first of which is never zero.

* **`Pattern.fixed`**, **`Pattern.exponential`** — the two regular expressions.
* **`head?_digits_ne_zero`** — a number does not begin with a zero.
* **`Scientific.matches_fixed`** — the form of a text without exponent, and its significant digits.
* **`Scientific.matches_exponential`** — the form of a text with an exponent. -/

namespace PocketCalc

-- Powers are those of the core library, also where another instance of `Pow` is known. For that, a
-- numeral in an exponent has its type written.
attribute [local instance (high)] instPowNat

/-! ## Patterns -/

namespace Pattern

/-- One of several characters. -/
def oneOf (chars : List Char) : RegularExpression Char :=
  (chars.map .char).foldr (· + ·) 0

/-- The digits other than zero. -/
def nonzeroDigits : List Char := ['1', '2', '3', '4', '5', '6', '7', '8', '9']

/-- A digit other than zero: `[1-9]`. -/
def nonzero : RegularExpression Char := oneOf nonzeroDigits

/-- A digit: `[0-9]`. -/
def digit : RegularExpression Char := oneOf ('0' :: nonzeroDigits)

/-- A natural number other than zero, without leading zeros: `[1-9][0-9]*`. -/
def natural : RegularExpression Char := nonzero * .star digit

/-- What may be missing: `(…)?`. -/
def optional (form : RegularExpression Char) : RegularExpression Char := 1 + form

/-- What may have a minus sign before it: `-?…`. -/
def signed (form : RegularExpression Char) : RegularExpression Char := optional (.char '-') * form

/-- **The form of a text without exponent**: `-?(0|[1-9][0-9]*)(\.[0-9]*[1-9])?`. -/
def fixed : RegularExpression Char :=
  signed ((.char '0' + natural) * optional (.char '.' * .star digit * nonzero))

/-- **The form of a text with an exponent**: `-?[1-9]\.[0-9]{11}e[+-][1-9][0-9]*`. -/
def exponential : RegularExpression Char :=
  signed (nonzero * .char '.' * digit ^ 11 * .char 'e' * oneOf ['+', '-'] * natural)

/-- What the pattern of several characters matches. -/
theorem mem_oneOf {chars text : List Char} :
    text ∈ (oneOf chars).matches' ↔ ∃ c ∈ chars, text = [c] := by
  induction chars with
  | nil =>
    constructor
    · rintro ⟨⟩
    · rintro ⟨c, none, -⟩
      exact absurd none List.not_mem_nil
  | cons c rest ih =>
    rw [List.exists_mem_cons_iff]
    exact or_congr Iff.rfl ih

/-- A digit is one of ten characters. -/
theorem mem_digits_of_isDigit {c : Char} (digit : c.isDigit = true) : c ∈ '0' :: nonzeroDigits := by
  have all : ∀ value < 10, value.digitChar ∈ '0' :: nonzeroDigits := by decide
  have range : 48 ≤ c.toNat ∧ c.toNat ≤ 57 := Char.isDigit_iff_toNat.mp digit
  have few : c.toNat - 48 < 10 := by omega
  have same : (c.toNat - 48).digitChar = c := by
    rw [← Char.toNat_inj, Nat.toNat_digitChar_of_lt_ten few]
    omega
  rw [← same]
  exact all _ few

/-- A digit matches. -/
theorem mem_digit {c : Char} (digit : c.isDigit = true) : [c] ∈ Pattern.digit.matches' :=
  mem_oneOf.mpr ⟨c, mem_digits_of_isDigit digit, rfl⟩

/-- A digit other than zero matches. -/
theorem mem_nonzero {c : Char} (digit : c.isDigit = true) (other : c ≠ '0') :
    [c] ∈ nonzero.matches' :=
  mem_oneOf.mpr ⟨c, (List.mem_cons.mp (mem_digits_of_isDigit digit)).resolve_left other, rfl⟩

section Digits

variable {text : List Char} (digits : ∀ c ∈ text, c.isDigit = true)

include digits

/-- Digits are divided into parts that match one by one. -/
theorem exists_parts : ∃ parts : List (List Char), text = parts.flatten ∧
    parts.length = text.length ∧ ∀ part ∈ parts, part ∈ digit.matches' := by
  refine ⟨text.map ([·]), ?_, List.length_map _, fun part member => ?_⟩
  · rw [← List.flatMap_def, List.flatMap_singleton']
  · obtain ⟨c, inside, rfl⟩ := List.mem_map.mp member
    exact mem_digit (digits c inside)

/-- Any digits match. -/
theorem mem_star_digit : text ∈ (RegularExpression.star digit).matches' := by
  obtain ⟨parts, same, -, all⟩ := exists_parts digits
  exact ⟨parts, same, all⟩

/-- As many digits as the power says match. -/
theorem mem_digit_pow : text ∈ (digit ^ text.length).matches' := by
  rw [RegularExpression.matches'_pow, Language.mem_pow]
  exact exists_parts digits

/-- Digits of which the first is not zero are a natural number. -/
theorem mem_natural (something : text ≠ []) (first : text.head? ≠ some '0') :
    text ∈ natural.matches' := by
  obtain ⟨c, rest, rfl⟩ := List.exists_cons_of_ne_nil something
  have leading := mem_nonzero (digits c (by simp)) (by simpa using first)
  have others := mem_star_digit fun d member => digits d (List.mem_cons_of_mem c member)
  exact Language.append_mem_mul leading others

/-- Digits of which the last is not zero may be places. -/
theorem mem_places (something : text ≠ []) (last : text.getLast? ≠ some '0') :
    '.' :: text ∈ (.char '.' * .star digit * nonzero : RegularExpression Char).matches' := by
  rcases List.eq_nil_or_concat text with rfl | ⟨init, c, rfl⟩
  · exact absurd rfl something
  · rw [List.concat_eq_append] at digits last ⊢
    have point : ['.'] ∈ (RegularExpression.char '.').matches' := rfl
    have others := mem_star_digit fun d member => digits d (List.mem_append_left [c] member)
    have final := mem_nonzero (digits c (by simp)) (by simpa using last)
    exact Language.append_mem_mul (Language.append_mem_mul point others) final

end Digits

/-- A minus sign may stand before what matches. -/
theorem mem_signed {form : RegularExpression Char} {text : List Char} (negative : Bool)
    (matched : text ∈ form.matches') :
    (if negative then '-' :: text else text) ∈ (signed form).matches' := by
  cases negative with
  | false =>
    have missing : [] ∈ (optional (.char '-')).matches' := .inl rfl
    exact Language.append_mem_mul missing matched
  | true =>
    have minus : ['-'] ∈ (optional (.char '-')).matches' := .inr rfl
    exact Language.append_mem_mul minus matched

/-- A whole part that matches may stand before any places that do not end in a zero. -/
theorem mem_fixed (negative : Bool) {whole places : List Char}
    (before : whole ∈ (.char '0' + natural : RegularExpression Char).matches')
    (digits : ∀ c ∈ places, c.isDigit = true) (last : places.getLast? ≠ some '0') :
    (if negative then '-' :: decimalText whole places else decimalText whole places) ∈
      fixed.matches' := by
  refine mem_signed negative ?_
  by_cases none : places = []
  · have missing : [] ∈ (optional (.char '.' * .star digit * nonzero)).matches' := .inl rfl
    rw [none, decimalText_nil, ← List.append_nil whole]
    exact Language.append_mem_mul before missing
  · rw [decimalText_of_ne_nil _ none]
    have behind : '.' :: places ∈ (optional (.char '.' * .star digit * nonzero)).matches' :=
      .inr (mem_places digits none last)
    exact Language.append_mem_mul before behind

/-- A text with an exponent has the letter. -/
theorem letter_mem_of_mem_exponential {text : List Char} (matched : text ∈ exponential.matches') :
    'e' ∈ text := by
  obtain ⟨sign, -, -, ⟨-, ⟨-, ⟨before, -, letter, rfl, rfl⟩, plus, -, rfl⟩, exponent, -, rfl⟩,
    rfl⟩ := matched
  simp

end Pattern

/-! ## Digits -/

/-- **A number does not begin with a zero.** -/
theorem head?_digits_ne_zero {value : Nat} (positive : 0 < value) :
    (digits value).head? ≠ some '0' := by
  unfold digits
  induction value using Nat.base_induction 10 (by decide) with
  | single value small =>
    rw [Nat.toDigits_of_lt_base small, List.head?_cons, Ne, Option.some.injEq,
      Nat.digitChar_eq_zero]
    exact Nat.ne_of_gt positive
  | digit front last few front_pos ih =>
    rw [← Nat.toDigits_append_toDigits (by decide) front_pos few,
      List.head?_append_of_ne_nil _ Nat.toDigits_ne_nil]
    exact ih front_pos

/-- A number other than zero is written as a natural number. -/
theorem Pattern.mem_natural_digits {value : Nat} (positive : 0 < value) :
    digits value ∈ natural.matches' :=
  mem_natural (fun _ => isDigit_of_mem_digits) Nat.toDigits_ne_nil (head?_digits_ne_zero positive)

/-- **The significant digits of a text without exponent**: all its digits from the first one on that
is not zero. -/
def significantDigits (text : List Char) : Nat :=
  ((text.filter Char.isDigit).dropWhile (· == '0')).length

/-- What follows a text takes no significant digit off it. -/
theorem length_dropWhile_le_append (text rest : List Char) :
    (text.dropWhile (· == '0')).length ≤ ((text ++ rest).dropWhile (· == '0')).length := by
  rw [List.dropWhile_append]
  split
  · rename_i nothing
    rw [List.isEmpty_iff.mp nothing]
    exact Nat.zero_le _
  · rw [List.length_append]
    exact Nat.le_add_right _ _

/-- The digits of a decimal number are those of its parts. -/
theorem filter_decimalText {whole places : List Char} (wholeDigits : ∀ c ∈ whole, c.isDigit = true)
    (placesDigits : ∀ c ∈ places, c.isDigit = true) :
    (decimalText whole places).filter Char.isDigit = whole ++ places := by
  have before : whole.filter Char.isDigit = whole := List.filter_eq_self.mpr wholeDigits
  have behind : places.filter Char.isDigit = places := List.filter_eq_self.mpr placesDigits
  unfold decimalText
  split
  · rename_i nothing
    rw [before, List.isEmpty_iff.mp nothing, List.append_nil]
  · rw [List.filter_append, before, List.filter_cons_of_neg (by decide), behind]

/-! ## Forms -/

namespace Scientific

variable {number : Scientific}
  (significand : 10 ^ (11 : Nat) ≤ number.significand ∧ number.significand < 10 ^ (12 : Nat))

include significand

/-- **A text without exponent has its form**, with or without a sign, and no more than twelve
significant digits. -/
theorem matches_fixed (negative : Bool) (near : number.isExponential = false) :
    (if negative then '-' :: number.text else number.text) ∈ Pattern.fixed.matches' ∧
      significantDigits number.text ≤ resultDigits := by
  have twelve : (PocketCalc.digits number.significand).length = resultDigits :=
    length_digits_eq (by decide) significand.1 significand.2
  have positive : 0 < number.significand :=
    Nat.lt_of_lt_of_le (Nat.pow_pos (by decide)) significand.1
  obtain ⟨whole, places, leading, dropped, trimmed⟩ := exists_trimmed significand near
  have wholeDigits := trimmed.laidOut.wholeDigits
  have placesDigits := trimmed.laidOut.placesDigits
  rw [trimmed.text]
  constructor
  · refine Pattern.mem_fixed negative ?_ placesDigits trimmed.last
    rcases trimmed.first with rfl | ⟨rfl, something⟩
    · exact .inl rfl
    · -- the whole part begins as the significand does
      refine .inr (Pattern.mem_natural wholeDigits something ?_)
      have begins := head?_digits_ne_zero positive
      rwa [← List.nil_append (PocketCalc.digits _), ← List.replicate_zero, ← trimmed.spelled,
        List.append_assoc, List.head?_append_of_ne_nil _ something] at begins
  · rw [significantDigits, filter_decimalText wholeDigits placesDigits]
    calc ((whole ++ places).dropWhile (· == '0')).length
        _ ≤ ((whole ++ places ++ List.replicate dropped '0').dropWhile (· == '0')).length :=
          length_dropWhile_le_append _ _
        _ = ((PocketCalc.digits number.significand).dropWhile (· == '0')).length := by
          rw [trimmed.spelled, List.dropWhile_append_of_pos (by simp)]
        _ ≤ (PocketCalc.digits number.significand).length := (List.dropWhile_sublist _).length_le
        _ = resultDigits := twelve

/-- **A text with an exponent has its form**, with or without a sign. -/
theorem matches_exponential (negative : Bool) (far : number.isExponential = true) :
    (if negative then '-' :: number.text else number.text) ∈ Pattern.exponential.matches' := by
  have twelve : (PocketCalc.digits number.significand).length = resultDigits :=
    length_digits_eq (by decide) significand.1 significand.2
  have positive : 0 < number.significand :=
    Nat.lt_of_lt_of_le (Nat.pow_pos (by decide)) significand.1
  have exponent : 0 < number.exponent.natAbs := by
    simp only [isExponential_eq, Bool.or_eq_true, decide_eq_true_eq] at far
    rw [resultDigits] at far
    omega
  have begins := head?_digits_ne_zero positive
  have digits (c : Char) (member : c ∈ PocketCalc.digits number.significand) : c.isDigit = true :=
    isDigit_of_mem_digits member
  rw [text_eq, if_pos far, exponential_eq]
  refine Pattern.mem_signed negative ?_
  obtain ⟨c, rest, same⟩ := List.exists_cons_of_ne_nil
    (show PocketCalc.digits number.significand ≠ [] from Nat.toDigits_ne_nil)
  rw [same] at begins digits twelve ⊢
  have eleven : rest.length = 11 := Nat.succ.inj twelve
  have first := Pattern.mem_nonzero (digits c (by simp)) (by simpa using begins)
  have point : ['.'] ∈ (RegularExpression.char '.').matches' := rfl
  have others := Pattern.mem_digit_pow fun d member => digits d (List.mem_cons_of_mem c member)
  have letter : ['e'] ∈ (RegularExpression.char 'e').matches' := rfl
  have sign : [if number.exponent < 0 then '-' else '+'] ∈ (Pattern.oneOf ['+', '-']).matches' := by
    refine Pattern.mem_oneOf.mpr ⟨_, ?_, rfl⟩
    split <;> decide
  have behind := Pattern.mem_natural_digits exponent
  rw [eleven] at others
  have matched := Language.append_mem_mul (Language.append_mem_mul (Language.append_mem_mul
    (Language.append_mem_mul (Language.append_mem_mul first point) others) letter) sign) behind
  simpa using matched

end Scientific

end PocketCalc
