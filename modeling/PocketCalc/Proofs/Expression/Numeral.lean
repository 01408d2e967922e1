import PocketCalc.Expression.Evaluation
import PocketCalc.Proofs.Decimal.Layout
import PocketCalc.Proofs.Expression.Scanning

/-! # Scanning numbers

A decimal number is normalized to itself and scanned as one numeral, whatever stands before it. It
names the number nearest to its digits. A percent sign behind it becomes a product with one
hundredth.

* **`normalize_eq_self`** — a text that normalizing does not change.
* **`numeralToken_decimalText`** — the token of a decimal number, with the number that it names.
* **`Scans.numeral`** — its characters all go to the run.
* **`Scans.percent`** — a percent sign finishes the run and begins another. -/

namespace PocketCalc

/-! ## Normalized texts -/

/-- A plain character other than the percent sign is normalized to itself. -/
theorem normalize_concat (text : List Char) {c : Char} (plainChar : plain c = c)
    (other : c ≠ '%') : normalize (text ++ [c]) = normalize text ++ [c] := by
  rw [normalize_append]
  simp [normalize, plainText, plainChar, other]

/-- A percent sign is normalized to a product with one hundredth. -/
theorem normalize_concat_percent (text : List Char) :
    normalize (text ++ ['%']) = normalize text ++ percentText := by
  rw [normalize_append]
  rfl

/-- What is no parenthesis is normalized to no parenthesis. -/
theorem forall_mem_normalize_ne {c : Char} (opening : c ≠ '(') (closing : c ≠ ')') :
    ∀ d ∈ normalize [c], d ≠ '(' ∧ d ≠ ')' := by
  have other : plain c ≠ '(' ∧ plain c ≠ ')' :=
    plain_induction (motive := fun c d => c ≠ '(' → c ≠ ')' → d ≠ '(' ∧ d ≠ ')')
      (fun _ opening closing => ⟨opening, closing⟩) (by decide) (by decide) (by decide) c
      opening closing
  intro d member
  simp only [normalize, plainText, List.map_cons, List.map_nil, List.flatMap_cons,
    List.flatMap_nil, List.append_nil] at member
  split at member
  · have every : percentText.all (fun d => d ≠ '(' && d ≠ ')') = true := rfl
    simpa using List.all_eq_true.mp every d member
  · rw [List.mem_singleton.mp member]
    exact other

/-- No digit is a glyph. -/
theorem plain_of_isDigit {c : Char} (digit : c.isDigit = true) : plain c = c := by
  rw [plain, if_neg (ne_of_isDigit digit rfl), if_neg (ne_of_isDigit digit rfl),
    if_neg (ne_of_isDigit digit rfl)]

/-- A text without glyphs and percent signs is normalized to itself. -/
theorem normalize_eq_self {text : List Char} (same : ∀ c ∈ text, plain c = c ∧ c ≠ '%') :
    normalize text = text := by
  induction text with
  | nil => rfl
  | cons c rest ih =>
    obtain ⟨plainChar, other⟩ := same c (by simp)
    have behind := ih fun d member => same d (List.mem_cons_of_mem c member)
    have first : normalize [c] = [c] := by simp [normalize, plainText, plainChar, other]
    rw [← List.singleton_append, normalize_append, first, behind]

/-- So is a decimal number. -/
theorem normalize_decimalText {whole places : List Char}
    (wholeDigits : ∀ c ∈ whole, c.isDigit = true) (placesDigits : ∀ c ∈ places, c.isDigit = true) :
    normalize (decimalText whole places) = decimalText whole places := by
  have digit (c : Char) (digit : c.isDigit = true) : plain c = c ∧ c ≠ '%' :=
    ⟨plain_of_isDigit digit, ne_of_isDigit digit rfl⟩
  refine normalize_eq_self fun c member => ?_
  rcases mem_decimalText member with before | rfl | behind
  · exact digit c (wholeDigits c before)
  · decide
  · exact digit c (placesDigits c behind)

/-! ## Values -/

/-- The number that a whole part and places name: the nearest one to their digits, scaled by the
number of places. -/
def decimalValue (whole places : List Char) : Binary64 :=
  .ofDecimal (Nat.ofDigitChars 10 (whole ++ places) 0) places.length

section DecimalNumber

variable {whole places : List Char} (something : whole ≠ [])
  (wholeDigits : ∀ c ∈ whole, c.isDigit = true)

include something wholeDigits

/-- **A decimal number names the number of its parts.** -/
theorem numeralValue?_decimalText :
    numeralValue? (decimalText whole places) = some (decimalValue whole places) := by
  have parts : (decimalText whole places).takeWhile Char.isDigit = whole ∧
      ((decimalText whole places).dropWhile Char.isDigit).drop 1 = places := by
    obtain ⟨before, behind⟩ := span_decimalText wholeDigits places
    refine ⟨before, ?_⟩
    rw [behind]
    cases places <;> rfl
  have nonempty : whole.isEmpty = false := List.isEmpty_eq_false_iff.mpr something
  simp [numeralValue?, parts, nonempty, decimalValue]

/-- It is a token of its own. -/
theorem numeralToken_decimalText :
    numeralToken (decimalText whole places) = .ok [.number (decimalValue whole places)] := by
  have nonempty : decimalText whole places ≠ [] := by
    intro empty
    unfold decimalText at empty
    split at empty
    · exact something empty
    · simp at empty
  rw [numeralToken, if_neg (mt List.isEmpty_iff.mp nonempty),
    numeralValue?_decimalText something wholeDigits]

end DecimalNumber

/-! ## Scanning -/

namespace Scans

variable {text run : List Char} {tokens : List Token}

/-- Digits go to the run. -/
theorem digits (scans : Scans text tokens run) {more : List Char}
    (digits : ∀ c ∈ more, c.isDigit = true) : Scans (text ++ more) tokens (run ++ more) := by
  induction more generalizing text run with
  | nil => simpa using scans
  | cons c rest ih =>
    have first := scans.digit (digits c (by simp))
    rw [List.append_cons, List.append_cons run]
    exact ih first fun d member => digits d (List.mem_cons_of_mem c member)

/-- **A decimal number goes to the run**, since it has at most one point. -/
theorem numeral (scans : Scans text tokens []) {whole places : List Char}
    (wholeDigits : ∀ c ∈ whole, c.isDigit = true) (placesDigits : ∀ c ∈ places, c.isDigit = true) :
    Scans (text ++ decimalText whole places) tokens (decimalText whole places) := by
  have before := scans.digits wholeDigits
  rw [List.nil_append] at before
  by_cases none : places = []
  · subst none
    exact before
  · have first : '.' ∉ whole := by
      intro member
      cases wholeDigits _ member
    have behind := (before.point first).digits placesDigits
    rw [List.append_assoc, List.append_assoc, List.append_assoc] at behind
    rw [decimalText_of_ne_nil _ none]
    exact behind

/-- **A percent sign** finishes a value, multiplies it and begins a numeral of its own. -/
theorem percent (scans : Scans text tokens run) {value : List Token}
    (finished : numeralToken run = .ok value) :
    Scans (text ++ percentText) (tokens ++ value ++ [.operation .multiply])
      ['0', '.', '0', '1'] := by
  have product := scans.token finished (show Token.ofChar? '*' = some _ from rfl)
  have zero : ∀ c ∈ ['0'], Char.isDigit c = true := List.all_eq_true.mp rfl
  have hundredth : ∀ c ∈ ['0', '1'], Char.isDigit c = true := List.all_eq_true.mp rfl
  have behind := product.numeral zero hundredth
  rw [List.append_assoc] at behind
  exact behind

end Scans

end PocketCalc
