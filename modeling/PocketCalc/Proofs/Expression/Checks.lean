import PocketCalc.Proofs.Expression.Acceptance
import PocketCalc.Proofs.Expression.Inside
import PocketCalc.Proofs.Expression.Lexeme
import PocketCalc.Proofs.Expression.Postorder
import PocketCalc.Proofs.Expression.Reordering

/-! # The first checks and the parser

Before a text is parsed, the characters of the normalized text are looked at and the parentheses of
the raw one are counted. The parser looks at both again, piece by piece and token by token, and it
has nothing to add: what it could refuse as foreign has been refused before, and a group can be left
open only where another parenthesis closes too much, for which the parser has a cause of its own.

* **`isExpressionChar_eq_false_iff`** — the first check and the scanner know the same characters.
* **`prepare_eq_malformed_iff`** — what the first check refuses.
* **`Token.openGroups_of_scan`**, **`openParens_normalize`** — the tokens leave open what the text
  does.
* **`parse_ne_unexpected`**, **`parse_ne_unclosed`** — what is left for the parser to refuse.
* **`evaluate_eq_malformed_iff`** — where a text is found malformed.
* **`evaluate_malformed_outcome`** — two causes that the parser never adds. -/

namespace PocketCalc

/-! ## Foreign characters -/

/-- **The first check and the scanner know the same characters.** -/
theorem isExpressionChar_eq_false_iff {c : Char} : isExpressionChar c = false ↔ IsForeign c := by
  constructor
  · intro outside
    simp only [isExpressionChar, Bool.or_eq_false_iff, beq_eq_false_iff_ne] at outside
    obtain ⟨⟨⟨⟨⟨noDigit, noOperator⟩, noOpening⟩, noClosing⟩, noPoint⟩, visible⟩ := outside
    exact ⟨by simp [isNumeralChar, noDigit, noPoint], noOperator, ⟨noOpening, noClosing⟩, visible⟩
  · rintro ⟨alone, noOperator, ⟨noOpening, noClosing⟩, visible⟩
    rw [isNumeralChar, Bool.or_eq_false_iff, beq_eq_false_iff_ne] at alone
    simp [isExpressionChar, alone, noOperator, noOpening, noClosing, visible]

/-- A blank is normalized to itself. -/
theorem normalize_of_isBlank {text : List Char} (blank : ∀ c ∈ text, isBlank c = true) :
    normalize text = text := by
  refine normalize_eq_self fun c member => ?_
  have other {d : Char} (visible : isBlank d = false) : c ≠ d := by
    rintro rfl
    rw [blank c member] at visible
    cases visible
  refine ⟨?_, other (by decide)⟩
  rw [plain, if_neg (other (by decide)), if_neg (other (by decide)), if_neg (other (by decide))]

/-- The character that the first check finds is the first foreign one. -/
theorem find?_eq_some_iff_isForeign {text : List Char} {c : Char} :
    text.find? (fun d => !isExpressionChar d) = some c ↔ ∃ before behind,
      text = before ++ c :: behind ∧ (∀ d ∈ before, ¬ IsForeign d) ∧ IsForeign c := by
  have known (d : Char) : (!!isExpressionChar d) = true ↔ ¬ IsForeign d := by
    rw [Bool.not_not, ← isExpressionChar_eq_false_iff, Bool.not_eq_false]
  rw [List.find?_eq_some_iff_append, Bool.not_eq_true', isExpressionChar_eq_false_iff]
  simp only [known]
  constructor
  · rintro ⟨foreign, before, behind, parts, others⟩
    exact ⟨before, behind, parts, others, foreign⟩
  · rintro ⟨before, behind, parts, others, foreign⟩
    exact ⟨foreign, before, behind, parts, others⟩

/-- **The first check refuses a text for its first foreign character.** A blank text has none. -/
theorem prepare_eq_malformed_iff {text : List Char} {cause : SyntaxError} :
    prepare text = .error (.malformed cause) ↔ ∃ c before behind, cause = .unexpected c ∧
      normalize text = before ++ c :: behind ∧ (∀ d ∈ before, ¬ IsForeign d) ∧ IsForeign c := by
  simp only [exists_and_left, ← find?_eq_some_iff_isForeign]
  cases found : (normalize text).find? (fun d => !isExpressionChar d) with
  | some foreign =>
    obtain ⟨before, behind, parts, -, outside⟩ := find?_eq_some_iff_isForeign.mp found
    have visible : trim text ≠ [] := by
      intro nothing
      have blank := trim_eq_nil_iff.mp nothing
      rw [normalize_of_isBlank blank] at parts
      have inside := blank foreign (by simp [parts])
      rw [outside.visible] at inside
      cases inside
    have refused : prepare text = .error (.malformed (.unexpected foreign)) := by
      simp [prepare, visible, found]
    rw [refused]
    constructor
    · intro same
      obtain rfl := EvalError.malformed.inj (Except.error.inj same)
      exact ⟨foreign, rfl, rfl⟩
    · rintro ⟨c, rfl, same⟩
      rw [Option.some.inj same]
  | none =>
    -- the later checks have verdicts of their own
    have passed : prepare text ≠ .error (.malformed cause) := by
      rw [prepare, found]
      dsimp only
      split
      · simp
      · split
        · simp
        · split <;> simp
    simp [passed]

/-- Only foreign characters are unexpected in a text. -/
theorem Token.isForeign_of_scan {text : List Char} {c : Char}
    (refused : scan text = .error (.unexpected c)) : c ∈ text ∧ IsForeign c := by
  obtain ⟨before, piece, behind, parts, -, faulty⟩ := scan_eq_error_iff.mp refused
  cases faulty with
  | foreign foreign =>
    refine ⟨?_, foreign⟩
    rw [← flatten_pieces text, parts]
    simp

/-! ## Groups -/

/-- A piece opens and closes what its tokens do. -/
theorem Lexeme.openGroups_eq {piece : List Char} {tokens : List Token}
    (lexeme : Lexeme piece tokens) : openGroups tokens = openParens piece := by
  cases lexeme with
  | blank blank =>
    symm
    apply Token.openParens_singleton
    all_goals
      rintro rfl
      cases blank
  | operation operation => cases operation <;> rfl
  | opening => rfl
  | closing => rfl
  | number isRun point digit =>
    have without : ∀ c ∈ piece, c ≠ '(' ∧ c ≠ ')' := by
      intro c member
      have numeral := isRun.numeral c member
      constructor
      all_goals
        rintro rfl
        cases numeral
    rw [openParens_of_forall_ne without]
    rfl

/-- Lexemes open and close what their pieces do. -/
theorem openGroups_flatten {parts : List (List Char)} {lexemes : List (List Token)}
    (read : List.Forall₂ Lexeme parts lexemes) :
    openGroups lexemes.flatten = openParens parts.flatten := by
  induction read with
  | nil => rfl
  | cons lexeme _ ih =>
    rw [List.flatten_cons, List.flatten_cons, openGroups_append, openParens_append, ih,
      lexeme.openGroups_eq]

/-- **The tokens of a text leave open what the text does.** -/
theorem Token.openGroups_of_scan {text : List Char} {tokens : List Token}
    (scanned : scan text = .ok tokens) : openGroups tokens = openParens text := by
  obtain ⟨lexemes, read, rfl⟩ := scan_eq_ok_iff.mp scanned
  rw [openGroups_flatten read, flatten_pieces]

/-- **Normalizing opens and closes nothing.** -/
theorem openParens_normalize (text : List Char) :
    openParens (normalize text) = openParens text := by
  induction text with
  | nil => rfl
  | cons c rest ih =>
    have first : openParens (normalize [c]) = openParens [c] := by
      by_cases opening : c = '('
      · rw [opening]
        rfl
      by_cases closing : c = ')'
      · rw [closing]
        rfl
      rw [Token.openParens_singleton opening closing]
      exact openParens_of_forall_ne (forall_mem_normalize_ne opening closing)
    rw [← List.singleton_append, normalize_append, openParens_append, openParens_append, first, ih]

/-! ## What the parser may still refuse -/

/-- Putting tokens into postfix order is refused for one of three causes. -/
theorem cause_of_toPostfix {tokens : List Token} {cause : SyntaxError}
    (refused : toPostfix tokens = .error cause) : cause = .unopened ∨ cause = .missingOperand ∨
      (cause = .unclosed ∧ tokens.count .closing < tokens.count .opening) := by
  rcases toPostfix_eq_error_iff.mp refused with ⟨-, token, -, rfl⟩ | ⟨-, more, rfl⟩
  · split
    · exact .inl rfl
    · exact .inr (.inl rfl)
  · exact .inr (.inr ⟨rfl, more⟩)

/-- Rebuilding a tree is refused for one of two. -/
theorem Expression.cause_of_ofPostfix {tokens : List Token} {cause : SyntaxError}
    (refused : ofPostfix tokens = .error cause) :
    cause = .missingOperand ∨ cause = .notOneValue := by
  rcases ofPostfix_eq_error_iff.mp refused with ⟨-, token, -, rfl⟩ | ⟨-, -, rfl⟩
  · split
    · exact .inr rfl
    · exact .inl rfl
  · exact .inr rfl

/-- **In a text without foreign characters nothing is unexpected.** -/
theorem parse_ne_unexpected {text : List Char} (known : ∀ c ∈ text, isExpressionChar c = true)
    (c : Char) : parse text ≠ .error (.unexpected c) := by
  intro refused
  rcases parse_eq_error_iff.mp refused with
    unscanned | ⟨tokens, -, unordered | ⟨ordered, -, unbuilt⟩⟩
  · obtain ⟨member, foreign⟩ := Token.isForeign_of_scan unscanned
    have inside := known c member
    rw [isExpressionChar_eq_false_iff.mpr foreign] at inside
    cases inside
  · simpa using cause_of_toPostfix unordered
  · simpa using Expression.cause_of_ofPostfix unbuilt

/-- **Where the text leaves nothing open, no group is found unclosed.** One could be left open only
if another parenthesis closed too much, and then that one is refused first. -/
theorem parse_ne_unclosed {text : List Char} (level : openParens text = 0) :
    parse text ≠ .error .unclosed := by
  intro refused
  rcases parse_eq_error_iff.mp refused with
    unscanned | ⟨tokens, scanned, unordered | ⟨ordered, -, unbuilt⟩⟩
  · obtain ⟨before, piece, behind, -, -, faulty⟩ := Token.scan_eq_error_iff.mp unscanned
    cases faulty
  · have more : tokens.count .closing < tokens.count .opening := by
      simpa using cause_of_toPostfix unordered
    have balanced := Token.openGroups_of_scan scanned
    rw [level, openGroups] at balanced
    omega
  · simpa using Expression.cause_of_ofPostfix unbuilt

/-- **Where a text is found malformed**: by the first check, or by the parser once it has passed all
the checks. -/
theorem evaluate_eq_malformed_iff {text : List Char} {cause : SyntaxError} :
    evaluate text = .error (.malformed cause) ↔ prepare text = .error (.malformed cause) ∨
      ∃ normalized, prepare text = .ok (some normalized) ∧ parse normalized = .error cause := by
  cases checked : prepare text with
  | error verdict => simp [evaluate, checked]
  | ok outcome =>
    cases outcome with
    | none => simp [evaluate, checked]
    | some normalized =>
      cases parsed : parse normalized with
      | error fault => simp [(evaluate_of_prepare checked).1 fault parsed, parsed]
      | ok expression =>
        have accepted := (evaluate_of_prepare checked).2 expression parsed
        rcases accepted with ⟨result, found⟩ | infinite
        · simp [found, parsed]
        · simp [infinite, parsed]

/-- **The first checks and the parser agree.** No text is refused for groups that are not closed.
A text is refused for an unexpected character exactly if its normalized form has a foreign one, and
it is refused for the first of these; the scanner never objects to a character that the first check
has let through. -/
theorem evaluate_malformed_outcome (text : List Char) :
    evaluate text ≠ .error (.malformed .unclosed) ∧
      (∀ c, evaluate text = .error (.malformed (.unexpected c)) ↔
        ∃ before behind, normalize text = before ++ c :: behind ∧
          (∀ d ∈ before, ¬ IsForeign d) ∧ IsForeign c) ∧
      ∀ normalized, prepare text = .ok (some normalized) →
        ∀ c, Token.scan normalized ≠ .error (.unexpected c) := by
  refine ⟨?_, fun c => ?_, ?_⟩
  · intro refused
    rcases evaluate_eq_malformed_iff.mp refused with checked | ⟨normalized, prepared, unparsed⟩
    · obtain ⟨c, -, -, other, -⟩ := prepare_eq_malformed_iff.mp checked
      cases other
    · obtain ⟨-, -, level, -, rfl⟩ := prepare_eq_ok_some_iff.mp prepared
      exact parse_ne_unclosed ((openParens_normalize text).trans level) unparsed
  · rw [evaluate_eq_malformed_iff]
    constructor
    · rintro (checked | ⟨normalized, prepared, unparsed⟩)
      · obtain ⟨first, before, behind, same, found⟩ := prepare_eq_malformed_iff.mp checked
        obtain rfl := SyntaxError.unexpected.inj same
        exact ⟨before, behind, found⟩
      · obtain ⟨-, known, -, -, rfl⟩ := prepare_eq_ok_some_iff.mp prepared
        exact absurd unparsed (parse_ne_unexpected known c)
    · rintro ⟨before, behind, found⟩
      exact .inl (prepare_eq_malformed_iff.mpr ⟨c, before, behind, rfl, found⟩)
  · intro normalized prepared c unscanned
    obtain ⟨-, known, -, -, rfl⟩ := prepare_eq_ok_some_iff.mp prepared
    exact parse_ne_unexpected known c (parse_eq_error_iff.mpr (.inl unscanned))

/-- In `1)+(2` the numbers of parentheses agree. The group that stays open is not found, because the
parenthesis that closes too much comes first. -/
theorem evaluate_malformed_outcome_of_crossed_group :
    let text := ['1', ')', '+', '(', '2']
    evaluate text = .error (.malformed .unopened) ∧ prepare text = .ok (some text) ∧
      evaluate text ≠ .error (.malformed .unclosed) ∧
        ∀ c, Token.scan text ≠ .error (.unexpected c) := by
  intro text
  have prepared : prepare text = .ok (some text) := rfl
  obtain ⟨closed, -, scanned⟩ := evaluate_malformed_outcome text
  exact ⟨rfl, prepared, closed, scanned text prepared⟩

end PocketCalc
