import Mathlib.Data.List.TakeWhile
import PocketCalc.Expression.Evaluation
import PocketCalc.Proofs.Expression.Reading
import PocketCalc.Proofs.Expression.Scanning

/-! # What the evaluator accepts

A text is accepted when the evaluator finds a value for it, be it finite or not. Every expression of
the grammar that passes the first checks is accepted. The converse fails: a missing operand in one
place can be made up for by a surplus value in another, and then the text is accepted although it is
no expression. This is the only way in which it fails.

* **`IsAccepted`** — a text for which the evaluator finds a value.
* **`isAccepted_iff`** — such a text passes the first checks and is parsed.
* **`IsGrammatical.isAccepted`** — expressions that pass the first checks are accepted.
* **`isGrammatical_iff_of_isAccepted`** — when an accepted text is an expression. -/

namespace PocketCalc

/-- **The evaluator finds a value for a text**: it has a result, or the value is not finite. -/
def IsAccepted (text : List Char) : Prop :=
  (∃ result, evaluate text = .ok (some result)) ∨ evaluate text = .error .arithmetic

/-- A value has a result text or is not finite; there is no other verdict. -/
theorem Binary64.result_cases (value : Binary64) :
    (∃ result, value.result = .ok result) ∨ value.result = .error .arithmetic := by
  cases value with
  | finite negative magnitude => exact .inl ⟨_, rfl⟩
  | infinite negative => exact .inr rfl
  | nan => exact .inr rfl

/-! ## The first checks -/

/-- A trimmed text ends with the last visible character. -/
theorem getLast?_trim (text : List Char) :
    (trim text).getLast? = (text.filter fun c => !isBlank c).getLast? := by
  have begun : (text.dropWhile isBlank).filter (fun c => !isBlank c) =
      text.filter fun c => !isBlank c := by
    have blank : (text.takeWhile isBlank).filter (fun c => !isBlank c) = [] := by
      rw [List.filter_eq_nil_iff]
      intro c member
      simp [List.all_eq_true.mp List.all_takeWhile c member]
    have parts := congrArg (List.filter fun c => !isBlank c)
      (List.takeWhile_append_dropWhile (p := isBlank) (l := text))
    rwa [List.filter_append, blank, List.nil_append] at parts
  rw [trim, List.getLast?_reverse, ← List.find?_not_eq_head?_dropWhile, ← List.head?_filter,
    List.filter_reverse, List.head?_reverse, begun]

/-- **A text passes the first checks** if something is left of it without blanks, it has no foreign
character, its parentheses are equal in number and its end is complete; it is then normalized. -/
theorem prepare_eq_ok_some_iff {text normalized : List Char} :
    prepare text = .ok (some normalized) ↔ trim text ≠ [] ∧
      (∀ c ∈ normalize text, isExpressionChar c = true) ∧ openParens text = 0 ∧
        endsIncomplete (plainText (trim text)).getLast? = false ∧ normalized = normalize text := by
  -- the checks in their order; each that objects denies one of the conditions
  unfold prepare
  by_cases blank : trim text = []
  · simp [blank]
  cases found : (normalize text).find? (fun c => !isExpressionChar c) with
  | some foreign =>
    have member := List.mem_of_find?_eq_some found
    have outside : isExpressionChar foreign = false := by simpa using List.find?_some found
    have refused : ¬ ∀ c ∈ normalize text, isExpressionChar c = true := by
      intro every
      simp [every foreign member] at outside
    simp [found, blank, refused]
  | none =>
    have inside : ∀ c ∈ normalize text, isExpressionChar c = true := by
      simpa using List.find?_eq_none.mp found
    by_cases balanced : openParens text = 0
    · by_cases complete : endsIncomplete (plainText (trim text)).getLast? = true
      · simp [found, blank, balanced, complete]
      · simp only [found, blank, balanced, if_neg complete, List.isEmpty_iff, if_false, ne_eq,
          not_true_eq_false, not_false_eq_true, Except.ok.injEq, Option.some.injEq, true_and]
        exact ⟨fun same => ⟨inside, by simpa using complete, same.symm⟩, fun all => all.2.2.symm⟩
    · simp [found, blank, balanced]

/-- The first checks do not look at values. -/
theorem prepare_ne_arithmetic (text : List Char) : prepare text ≠ .error .arithmetic := by
  unfold prepare
  dsimp only
  split
  · simp
  · split
    · simp
    · split
      · simp
      · split <;> simp

/-! ## Acceptance -/

/-- **A text that passes the first checks is judged by its parse.** -/
theorem evaluate_of_prepare {text normalized : List Char}
    (prepared : prepare text = .ok (some normalized)) :
    (∀ cause, parse normalized = .error cause → evaluate text = .error (.malformed cause)) ∧
      (∀ expression, parse normalized = .ok expression → IsAccepted text) := by
  constructor
  · intro cause refused
    simp only [evaluate, prepared, compute, refused]
    rfl
  · intro expression parsed
    have judged : evaluate text = expression.value.result.map some := by
      simp only [evaluate, prepared, compute, parsed]
      rfl
    rcases expression.value.result_cases with ⟨result, finite⟩ | infinite
    · exact .inl ⟨result, by rw [judged, finite]; rfl⟩
    · exact .inr (by rw [judged, infinite]; rfl)

/-- **A text is accepted exactly if it passes the first checks and is parsed.** -/
theorem isAccepted_iff {text : List Char} :
    IsAccepted text ↔ prepare text = .ok (some (normalize text)) ∧
      ∃ expression, parse (normalize text) = .ok expression := by
  constructor
  · intro accepted
    cases checked : prepare text with
    | error verdict =>
      have judged : evaluate text = .error verdict := by simp only [evaluate, checked]
      rcases accepted with ⟨result, found⟩ | infinite
      · simp [judged] at found
      · rw [judged, Except.error.injEq] at infinite
        exact absurd (infinite ▸ checked) (prepare_ne_arithmetic text)
    | ok outcome =>
      cases outcome with
      | none =>
        have judged : evaluate text = .ok none := by simp only [evaluate, checked]
        simp [IsAccepted, judged] at accepted
      | some normalized =>
        obtain ⟨-, -, -, -, rfl⟩ := prepare_eq_ok_some_iff.mp checked
        cases parsed : parse (normalize text) with
        | error cause =>
          have judged := (evaluate_of_prepare checked).1 cause parsed
          simp [IsAccepted, judged] at accepted
        | ok expression => exact ⟨rfl, expression, rfl⟩
  · rintro ⟨prepared, expression, parsed⟩
    exact (evaluate_of_prepare prepared).2 expression parsed

/-- **A result is the text of a finite number.** -/
theorem exists_resultText_of_evaluate {text result : List Char}
    (found : evaluate text = .ok (some result)) :
    ∃ negative magnitude, result = resultText negative magnitude := by
  unfold evaluate at found
  split at found
  · cases found
  · cases found
  split at found
  · cases found
  · rename_i value _
    cases value with
    | finite negative magnitude =>
      have shown : resultText negative magnitude = result := by
        simpa [Binary64.result, Except.map] using found
      exact ⟨negative, magnitude, shown.symm⟩
    | infinite negative => cases found
    | nan => cases found

/-! ## The grammar -/

/-- The three stages of parsing. -/
theorem parse_eq_ok_iff {normalized : List Char} {expression : Expression} :
    parse normalized = .ok expression ↔ ∃ tokens ordered, Token.scan normalized = .ok tokens ∧
      toPostfix tokens = .ok ordered ∧ Expression.ofPostfix ordered = .ok expression := by
  unfold parse
  cases scanned : Token.scan normalized with
  | error fault => simp [bind, Except.bind]
  | ok tokens =>
    cases written : toPostfix tokens with
    | error fault => simp [bind, Except.bind, written]
    | ok ordered => simp [bind, Except.bind, written]

/-- Each stage of parsing may refuse, and the first that does gives the cause. -/
theorem parse_eq_error_iff {normalized : List Char} {cause : SyntaxError} :
    parse normalized = .error cause ↔ Token.scan normalized = .error cause ∨
      ∃ tokens, Token.scan normalized = .ok tokens ∧ (toPostfix tokens = .error cause ∨
        ∃ ordered, toPostfix tokens = .ok ordered ∧
          Expression.ofPostfix ordered = .error cause) := by
  unfold parse
  cases scanned : Token.scan normalized with
  | error fault => simp [bind, Except.bind]
  | ok tokens =>
    cases written : toPostfix tokens with
    | error fault => simp [bind, Except.bind, written]
    | ok ordered => simp [bind, Except.bind, written]

/-- **The tokens of a derivation are parsed into its tree.** -/
theorem Derives.parse_eq {normalized : List Char} {tokens : List Token} {expression : Expression}
    (derivation : Derives .sum tokens expression) (scanned : Token.scan normalized = .ok tokens) :
    parse normalized = .ok expression := by
  have written : toPostfix tokens = .ok expression.postorder := derivation.toPostfix_eq
  have rebuilt : Expression.ofPostfix expression.postorder = .ok expression :=
    Expression.ofPostfix_postorder expression
  exact parse_eq_ok_iff.mpr ⟨tokens, _, scanned, written, rebuilt⟩

/-- **Expressions of the grammar are accepted**, if they pass the first checks. -/
theorem IsGrammatical.isAccepted {text : List Char} {tokens : List Token}
    (grammatical : IsGrammatical tokens) (scanned : Token.scan (normalize text) = .ok tokens)
    (prepared : prepare text = .ok (some (normalize text))) : IsAccepted text := by
  obtain ⟨expression, derivation⟩ := grammatical
  exact isAccepted_iff.mpr ⟨prepared, expression, derivation.parse_eq scanned⟩

/-- What has a postfix order and no surplus value, and lacks no operand, is an expression. -/
theorem IsGrammatical.of_toPostfix {tokens ordered : List Token}
    (written : toPostfix tokens = .ok ordered) (unmarked : .negate ∉ tokens)
    (complete : missing tokens = 0) (single : surplus tokens = 0) : IsGrammatical tokens := by
  have reading := Reading.of_toPostfix written complete unmarked
  rw [single] at reading
  exact reading.isGrammatical

/-- **What the evaluator accepts outside its grammar.** An accepted text lacks as many operands as
it has values too many, and it is an expression of the grammar exactly if there are none. -/
theorem isGrammatical_iff_of_isAccepted {text : List Char} (accepted : IsAccepted text) :
    ∃ tokens, Token.scan (normalize text) = .ok tokens ∧ missing tokens = surplus tokens ∧
      (IsGrammatical tokens ↔ surplus tokens = 0) := by
  obtain ⟨-, expression, parsed⟩ := isAccepted_iff.mp accepted
  obtain ⟨tokens, ordered, scanned, written, rebuilt⟩ := parse_eq_ok_iff.mp parsed
  have equal : missing tokens = surplus tokens := missing_eq_surplus written rebuilt
  refine ⟨tokens, scanned, equal, IsGrammatical.surplus_eq_zero, ?_⟩
  intro none
  exact .of_toPostfix written (Token.negate_notMem_of_scan scanned) (equal.trans none) none

/-- An unfinished sum behind a value, wrapped by the sign key: the value behind the parenthesis
makes up for the operand that the sum lacks. -/
theorem isGrammatical_iff_of_wrapped_sum :
    let text := ['(', '-', '1', ')', '*', '(', '(', '1', ')', '2', '+', ')']
    IsAccepted text ∧ ∃ tokens, Token.scan (normalize text) = .ok tokens ∧
      missing tokens = surplus tokens ∧ (IsGrammatical tokens ↔ surplus tokens = 0) := by
  intro text
  have prepared : prepare text = .ok (some (normalize text)) := rfl
  have parsed : ∃ expression, parse (normalize text) = .ok expression := ⟨_, rfl⟩
  have accepted : IsAccepted text := isAccepted_iff.mpr ⟨prepared, parsed⟩
  exact ⟨accepted, isGrammatical_iff_of_isAccepted accepted⟩

/-- **Accepted texts need not be expressions**: in `()1+2` the empty group lacks an operand and the
number behind it is one too many. -/
theorem exists_isAccepted_not_isGrammatical :
    let text := ['(', ')', '1', '+', '2']
    IsAccepted text ∧ ∀ tokens, Token.scan (normalize text) = .ok tokens →
      ¬ IsGrammatical tokens := by
  intro text
  have prepared : prepare text = .ok (some (normalize text)) := rfl
  have parsed : ∃ expression, parse (normalize text) = .ok expression := ⟨_, rfl⟩
  refine ⟨isAccepted_iff.mpr ⟨prepared, parsed⟩, ?_⟩
  -- the number behind the group is a surplus value, which no derivation has
  intro tokens scanned grammatical
  have read : Token.scan (normalize text) = .ok [.opening, .closing, .number (.ofDecimal 1 0),
      .operation .add, .number (.ofDecimal 2 0)] := rfl
  rw [read, Except.ok.injEq] at scanned
  have single := grammatical.surplus_eq_zero
  rw [← scanned] at single
  exact absurd single (by simp [surplus, surplusFrom])

end PocketCalc
