import PocketCalc.Proofs.Expression.Acceptance
import PocketCalc.Proofs.Expression.Numeral

/-! # What a text denotes

A text denotes the value of the expression that the grammar reads it as, and it denotes nothing
else: the evaluator finds this value. A number denotes the number nearest to its digits, or a
hundredth of it with a percent sign behind; a minus sign in front makes it the opposite in both
cases, although the sign is read before the percent sign.

* **`Denotes`** — the value of a text by the grammar.
* **`denotes_iff`** — what the grammar and the evaluator say, together.
* **`Denotes.evaluate_eq`** — the result of a text that denotes a value.
* **`denotes_number`**, **`denotes_minus_percent`** — what numbers denote, with a sign or a percent
  sign or both. -/

namespace PocketCalc

/-! ## Values of texts -/

/-- **What a text denotes**: the value of the expression that the grammar reads it as. -/
def Denotes (text : List Char) (value : Binary64) : Prop :=
  ∃ tokens expression, Token.scan (normalize text) = .ok tokens ∧
    Derives .sum tokens expression ∧ expression.value = value

/-- A tree has one value. -/
theorem compute_of_parse {normalized : List Char} {expression : Expression}
    (parsed : parse normalized = .ok expression) : compute normalized = .ok expression.value := by
  rw [compute, parsed]
  rfl

namespace Denotes

variable {text : List Char} {value other : Binary64}

/-- **The evaluator finds what a text denotes.** -/
theorem compute_eq (denotes : Denotes text value) : compute (normalize text) = .ok value := by
  obtain ⟨tokens, expression, scanned, derivation, rfl⟩ := denotes
  exact compute_of_parse (derivation.parse_eq scanned)

/-- A text denotes one value. -/
theorem unique (first : Denotes text value) (second : Denotes text other) : value = other :=
  Except.ok.inj (first.compute_eq.symm.trans second.compute_eq)

/-- The result of a text that passes the first checks is that of the value it denotes. -/
theorem evaluate_eq (denotes : Denotes text value)
    (prepared : prepare text = .ok (some (normalize text))) :
    evaluate text = value.result.map some := by
  simp only [evaluate, prepared, denotes.compute_eq]

end Denotes

/-- **What a text denotes, said with the evaluator**: its tokens are an expression of the grammar,
and the evaluator finds the value. -/
theorem denotes_iff {text : List Char} {value : Binary64} :
    Denotes text value ↔ (∃ tokens, Token.scan (normalize text) = .ok tokens ∧
      IsGrammatical tokens) ∧ compute (normalize text) = .ok value := by
  constructor
  · intro denotes
    refine ⟨?_, denotes.compute_eq⟩
    obtain ⟨tokens, expression, scanned, derivation, -⟩ := denotes
    exact ⟨tokens, scanned, expression, derivation⟩
  · rintro ⟨⟨tokens, scanned, expression, derivation⟩, computed⟩
    have found := compute_of_parse (derivation.parse_eq scanned)
    rw [computed, Except.ok.injEq] at found
    exact ⟨tokens, expression, scanned, derivation, found.symm⟩

/-! ## Numbers -/

/-- One hundredth, the factor of a percent sign. -/
def hundredth : Binary64 := decimalValue ['0'] ['0', '1']

/-- A minus sign at the start is read as it stands. -/
theorem scans_minus : Scans ['-'] [.operation .subtract] [] :=
  Scans.nil.token (show numeralToken [] = .ok [] from rfl) rfl

section Numbers

variable {whole places : List Char} (something : whole ≠ [])
  (wholeDigits : ∀ c ∈ whole, c.isDigit = true) (placesDigits : ∀ c ∈ places, c.isDigit = true)

include something wholeDigits placesDigits

/-- The tokens of a number, behind a sign or at the start. -/
theorem scan_number {sign : List Char} {tokens : List Token} (scans : Scans sign tokens [])
    (plainSign : normalize sign = sign) :
    Token.scan (normalize (sign ++ decimalText whole places)) =
      .ok (tokens ++ [.number (decimalValue whole places)]) := by
  rw [normalize_append, plainSign, normalize_decimalText wholeDigits placesDigits]
  exact (scans.numeral wholeDigits placesDigits).finish
    (numeralToken_decimalText something wholeDigits)

/-- The tokens of a number with a percent sign, behind a sign or at the start. -/
theorem scan_percent {sign : List Char} {tokens : List Token} (scans : Scans sign tokens [])
    (plainSign : normalize sign = sign) :
    Token.scan (normalize (sign ++ decimalText whole places ++ ['%'])) =
      .ok (tokens ++ [.number (decimalValue whole places), .operation .multiply,
        .number (hundredth)]) := by
  have value :
      numeralToken (decimalText whole places) = .ok [.number (decimalValue whole places)] :=
    numeralToken_decimalText something wholeDigits
  have product := (scans.numeral wholeDigits placesDigits).percent value
  have factor : numeralToken ['0', '.', '0', '1'] = .ok [.number hundredth] := rfl
  rw [normalize_concat_percent, normalize_append, plainSign,
    normalize_decimalText wholeDigits placesDigits, product.finish factor]
  simp only [List.append_assoc, List.cons_append, List.nil_append]

/-- **A number denotes the number that it names.** -/
theorem denotes_number : Denotes (decimalText whole places) (decimalValue whole places) :=
  ⟨_, _, scan_number something wholeDigits placesDigits .nil rfl,
    .sum_of_factor (.number _), rfl⟩

/-- A minus sign in front makes it the opposite. -/
theorem denotes_minus_number : Denotes ('-' :: decimalText whole places)
    (-decimalValue whole places) :=
  ⟨_, _, scan_number something wholeDigits placesDigits scans_minus rfl,
    .sum_of_factor (.negate (.number _)), rfl⟩

/-- A percent sign behind it takes a hundredth. -/
theorem denotes_percent : Denotes (decimalText whole places ++ ['%'])
    (decimalValue whole places * hundredth) :=
  ⟨_, _, scan_percent something wholeDigits placesDigits .nil rfl,
    .ofTerm (.multiplicative rfl (.ofFactor (.number _)) (.number _)), rfl⟩

/-- **The opposite of a hundredth.** The sign belongs to the number alone, and the product with the
hundredth has it all the same. -/
theorem denotes_minus_percent : Denotes ('-' :: decimalText whole places ++ ['%'])
    (-(decimalValue whole places * hundredth)) :=
  ⟨_, _, scan_percent something wholeDigits placesDigits scans_minus rfl,
    .ofTerm (.multiplicative rfl (.ofFactor (.negate (.number _))) (.number _)),
    Binary64.neg_mul _ _⟩

end Numbers

end PocketCalc
