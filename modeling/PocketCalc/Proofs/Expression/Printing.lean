import PocketCalc.Proofs.Decimal.Shortest
import PocketCalc.Proofs.Expression.Numeral

/-! # Expressions read back

The text of an expression has a pair of parentheses for every operation. Scanned and parsed, it
gives the same tree, if no number in it has a sign. Each part of the text is a factor of the
grammar, so it may be an operand wherever it stands, and the minus sign of a negation captures its
group and nothing more. The numbers are the same again because their texts read back.

* **`ScansAs`** — the tokens of a text that may end here or go on.
* **`Expression.written`** — the tokens of the text.
* **`Expression.scansAs_text`** — the text of an expression behind any finished beginning.
* **`Expression.derives_written`** — its tokens are a factor of the grammar.
* **`Expression.exists_tokens_of_text`** — the text is parsed into the same tree. -/

namespace PocketCalc

/-! ## Scanning to the end -/

/-- **What a text amounts to if it ends here**: the finished tokens, and the numeral of a run that
is not finished. -/
def ScansAs (text : List Char) (tokens : List Token) : Prop :=
  ∃ finished run numeral, Scans text finished run ∧ numeralToken run = .ok numeral ∧
    tokens = finished ++ numeral

namespace ScansAs

variable {text : List Char} {tokens : List Token}

/-- Without a run, the finished tokens are all. -/
theorem of_scans (scans : Scans text tokens []) : ScansAs text tokens :=
  ⟨tokens, [], [], scans, rfl, (List.append_nil tokens).symm⟩

/-- A character that is a token finishes what may end here. -/
theorem token (scansAs : ScansAs text tokens) {c : Char} {token : Token}
    (single : Token.ofChar? c = some token) : Scans (text ++ [c]) (tokens ++ [token]) [] := by
  obtain ⟨finished, run, numeral, scans, made, rfl⟩ := scansAs
  exact scans.token made single

/-- What may end here does. -/
theorem finish (scansAs : ScansAs text tokens) : Token.scan text = .ok tokens := by
  obtain ⟨finished, run, numeral, scans, made, rfl⟩ := scansAs
  exact scans.finish made

end ScansAs

namespace Expression

/-! ## The tokens of a text -/

/-- The numbers of an expression, from left to right. -/
def leaves : Expression → List Binary64
  | number value => [value]
  | negate operand => operand.leaves
  | apply _ left right => left.leaves ++ right.leaves

/-- **The tokens of the text of an expression.** A negation is written with the sign of
subtraction. -/
def written : Expression → List Token
  | number value => [.number value]
  | negate operand => .operation .subtract :: (.opening :: operand.written ++ [.closing])
  | apply operation left right =>
    .opening :: (left.written ++ .operation operation :: right.written) ++ [.closing]

/-- The sign of an operation is its token. -/
theorem ofChar?_sign (operation : Operation) :
    Token.ofChar? operation.sign = some (.operation operation) := by
  cases operation <;> rfl

/-- **The text of an expression is scanned into its tokens**, behind any beginning that leaves no
run, by induction on the expression. Each part begins behind a sign or a parenthesis, so no two
numerals run together. -/
theorem scansAs_text {expression : Expression}
    (positive : ∀ value ∈ expression.leaves, ∃ magnitude, value = .finite false magnitude)
    {text : List Char} {tokens : List Token} (before : Scans text tokens []) :
    ScansAs (text ++ expression.text) (tokens ++ expression.written) := by
  have opening : Token.ofChar? '(' = some .opening := rfl
  have closing : Token.ofChar? ')' = some .closing := rfl
  have minus : Token.ofChar? '-' = some (.operation .subtract) := rfl
  induction expression generalizing text tokens with
  | number value =>
    obtain ⟨magnitude, rfl⟩ := positive value (List.mem_singleton.mpr rfl)
    obtain ⟨whole, places, shown, names⟩ := Binary64.exists_text_eq magnitude
    have named : decimalValue whole places = .finite false magnitude := names.named
    refine ⟨tokens, decimalText whole places, _, ?_, ?_, rfl⟩
    · rw [text_number, shown]
      exact before.numeral names.wholeDigits names.placesDigits
    · rw [numeralToken_decimalText names.something names.wholeDigits, named, written]
  | negate operand ih =>
    have group := (ScansAs.of_scans ((ScansAs.of_scans before).token minus)).token opening
    have closed := (ih positive group).token closing
    refine .of_scans ?_
    simpa [written] using closed
  | apply operation left right ihLeft ihRight =>
    have group := (ScansAs.of_scans before).token opening
    have ofLeft := ihLeft (fun value member => positive value (by simp [leaves, member])) group
    have ofRight := ihRight (fun value member => positive value (by simp [leaves, member]))
      (ofLeft.token (ofChar?_sign operation))
    have closed := ofRight.token closing
    refine .of_scans ?_
    simpa [written] using closed

/-- **The tokens of a text are a factor of the grammar**: a number, the negation of a group or a
group. -/
theorem derives_written (expression : Expression) :
    Derives .factor expression.written expression := by
  induction expression with
  | number value => exact .number value
  | negate operand ih => exact .negate (.group (.sum_of_factor ih))
  | apply operation left right ihLeft ihRight =>
    refine .group ?_
    -- whatever the operation joins, both its operands are factors
    have bounds := operation.precedence_bounds
    rcases (show operation.precedence = 1 ∨ operation.precedence = 2 by omega) with sum | product
    · exact .additive sum (.sum_of_factor ihLeft) (.ofFactor ihRight)
    · exact .ofTerm (.multiplicative product (.ofFactor ihLeft) ihRight)

/-! ## Reading back -/

/-- **The text of an expression is parsed into the same tree**, with the same numbers, if none of
them has a sign; zero without sign is among them. Nothing is assumed of the text of a number: it
reads back because the shortest decimal was chosen so. -/
theorem exists_tokens_of_text (expression : Expression)
    (positive : ∀ value ∈ expression.leaves, ∃ magnitude, value = .finite false magnitude) :
    ∃ tokens ordered, Token.scan expression.text = .ok tokens ∧ toPostfix tokens = .ok ordered ∧
      ofPostfix ordered = .ok expression := by
  have scanned := (scansAs_text positive .nil).finish
  rw [List.nil_append, List.nil_append] at scanned
  have derivation := Derives.sum_of_factor expression.derives_written
  exact ⟨_, _, scanned, derivation.toPostfix_eq, ofPostfix_postorder expression⟩

/-- The text of `-(1-0)` is parsed into the negation of the difference. -/
theorem exists_tokens_of_negated_difference :
    let one := Binary64.finite false .one
    let zero := Binary64.finite false .zero
    let expression := negate (apply .subtract (number one) (number zero))
    (∀ value ∈ expression.leaves, ∃ magnitude, value = .finite false magnitude) ∧
      ∃ tokens ordered, Token.scan expression.text = .ok tokens ∧ toPostfix tokens = .ok ordered ∧
        ofPostfix ordered = .ok expression := by
  intro one zero expression
  have positive : ∀ value ∈ expression.leaves, ∃ magnitude, value = .finite false magnitude := by
    intro value member
    simp only [expression, leaves, List.singleton_append, List.mem_cons, List.not_mem_nil,
      or_false] at member
    rcases member with rfl | rfl
    · exact ⟨.one, rfl⟩
    · exact ⟨.zero, rfl⟩
  exact ⟨positive, exists_tokens_of_text expression positive⟩

end Expression

end PocketCalc
