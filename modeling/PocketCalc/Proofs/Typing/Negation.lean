import PocketCalc.Proofs.Binary64.Rounding
import PocketCalc.Proofs.Expression.Denotation
import PocketCalc.Proofs.Expression.Lexeme
import PocketCalc.Proofs.Typing.Parentheses

/-! # The sign key negates

The sign key edits the text without reading it, and yet the new text denotes the opposite of the
old one. A wrapped text is read as minus one times the group inside, and the inside of a wrapper is
an expression if the whole is one. A sign in front of a number negates it also where the number has
a percent sign.

* **`scan_wrap`** — the tokens of a wrapped text.
* **`Denotes.wrap`**, **`Denotes.unwrap`** — a wrapper negates, and so does taking it off.
* **`IsUnsigned.exists_denotes`** — a sign in front of a number negates it.
* **`compute_toggleSign`** — the sign key negates. -/

namespace PocketCalc

/-! ## Wrappers -/

/-- A closing parenthesis at the end of a text is the last of its tokens. -/
theorem Token.scan_append_closing (text : List Char) :
    scan (text ++ [')']) = (scan text).map (· ++ [.closing]) := by
  have ends : ∀ c ∈ [')'].head?, isNumeralChar c = false := by simp [isNumeralChar]
  rw [scan_append_of_ends ends, Lexeme.closing.scan_eq]
  rfl

/-- What stands before a wrapped text, as tokens. -/
def wrapperTokens : List Token :=
  [.opening, .operation .subtract, .number (.ofDecimal 1 0), .closing, .operation .multiply]

/-- What stands before a wrapped text is scanned so. -/
theorem scans_wrapperStart : Scans wrapperStart (wrapperTokens ++ [.opening]) [] := by
  have one : numeralToken ['1'] = .ok [.number (.ofDecimal 1 0)] := rfl
  have none : numeralToken [] = .ok [] := rfl
  have sign := (Scans.nil.token none (show Token.ofChar? '(' = some _ from rfl)).token none
    (show Token.ofChar? '-' = some _ from rfl)
  have group := (sign.digit (show Char.isDigit '1' = true from rfl)).token one
    (show Token.ofChar? ')' = some _ from rfl)
  exact (group.token none (show Token.ofChar? '*' = some _ from rfl)).token none
    (show Token.ofChar? '(' = some _ from rfl)

/-- **The tokens of a wrapped text** are those of the text, in a group that minus one is multiplied
with. -/
theorem scan_wrap (text : List Char) :
    Token.scan (normalize (wrap text)) = (Token.scan (normalize text)).map
      fun tokens => wrapperTokens ++ .opening :: tokens ++ [.closing] := by
  have start : normalize wrapperStart = wrapperStart := rfl
  have finish : normalize [')'] = [')'] := rfl
  rw [wrap, normalize_append, normalize_append, start, finish, List.append_assoc,
    scans_wrapperStart, ← Token.scan, Token.scan_append_closing, map_append_comm]
  cases Token.scan (normalize text) with
  | error fault => rfl
  | ok tokens => simp [Except.map]

/-- **A wrapped expression is an expression**, of the opposite value. -/
theorem Derives.wrap {tokens : List Token} {expression : Expression}
    (derivation : Derives .sum tokens expression) :
    ∃ wrapped, Derives .sum (wrapperTokens ++ .opening :: tokens ++ [.closing]) wrapped ∧
      wrapped.value = -expression.value := by
  have minusOne : Derives .term [.opening, .operation .subtract, .number (.ofDecimal 1 0), .closing]
      (.negate (.number (.ofDecimal 1 0))) :=
    .ofFactor (.group (.sum_of_factor (.negate (.number _))))
  have product : Derives .term (wrapperTokens ++ .opening :: tokens ++ [.closing])
      (.apply .multiply (.negate (.number (.ofDecimal 1 0))) expression) :=
    .multiplicative rfl minusOne (.group derivation)
  exact ⟨_, .ofTerm product, Binary64.negOne_mul expression.value⟩

namespace Denotes

variable {text : List Char} {value : Binary64}

/-- **A wrapper negates.** -/
theorem wrap (denotes : Denotes text value) : Denotes (wrap text) (-value) := by
  obtain ⟨tokens, expression, scanned, derivation, rfl⟩ := denotes
  obtain ⟨wrapped, whole, negated⟩ := derivation.wrap
  refine ⟨_, wrapped, ?_, whole, negated⟩
  rw [scan_wrap, scanned]
  rfl

/-- **Taking a wrapper off negates**, if it does not close what the text inside opens. -/
theorem unwrap (denotes : Denotes (PocketCalc.wrap text) value) (own : ClosesOwnParens text) :
    Denotes text (-value) := by
  obtain ⟨⟨tokens, scanned, grammatical⟩, -⟩ := denotes_iff.mp denotes
  have unmarked := Token.negate_notMem_of_scan scanned
  rw [scan_wrap] at scanned
  cases found : Token.scan (normalize text) with
  | error fault =>
    rw [found] at scanned
    cases scanned
  | ok inside =>
    rw [found] at scanned
    obtain rfl := Except.ok.inj scanned
    obtain ⟨expression, derivation⟩ :=
      grammatical.of_group unmarked rfl (own.closesOwnGroups found)
    have read : Denotes text expression.value := ⟨inside, expression, found, derivation, rfl⟩
    -- the inside, wrapped again, is the whole
    rw [denotes.unique read.wrap, Binary64.neg_neg]
    exact read

end Denotes

/-! ## Numbers -/

/-- **A number without a sign**: digits, a fraction or none, a percent sign or none. -/
inductive IsUnsigned : List Char → Prop where
  /-- A number without a percent sign. -/
  | number {whole places : List Char} (something : whole ≠ [])
      (wholeDigits : ∀ c ∈ whole, c.isDigit = true)
      (placesDigits : ∀ c ∈ places, c.isDigit = true) :
      IsUnsigned (decimalText whole places)
  /-- A number with one. -/
  | percent {whole places : List Char} (something : whole ≠ [])
      (wholeDigits : ∀ c ∈ whole, c.isDigit = true)
      (placesDigits : ∀ c ∈ places, c.isDigit = true) :
      IsUnsigned (decimalText whole places ++ ['%'])

/-- **A sign in front of a number negates it.** -/
theorem IsUnsigned.exists_denotes {text : List Char} (unsigned : IsUnsigned text) :
    ∃ value, Denotes text value ∧ Denotes ('-' :: text) (-value) := by
  cases unsigned with
  | number something wholeDigits placesDigits =>
    exact ⟨_, denotes_number something wholeDigits placesDigits,
      denotes_minus_number something wholeDigits placesDigits⟩
  | percent something wholeDigits placesDigits =>
    exact ⟨_, denotes_percent something wholeDigits placesDigits,
      denotes_minus_percent something wholeDigits placesDigits⟩

/-- Digits are some, and all of them are digits. -/
theorem isDigits_iff {text : List Char} :
    isDigits text = true ↔ text ≠ [] ∧ ∀ c ∈ text, c.isDigit = true := by
  simp [isDigits]

/-- The sign key takes for a number what is one without its sign. -/
theorem isUnsigned_of_isPlainNumber {text : List Char} (number : isPlainNumber text = true) :
    IsUnsigned ((behind? ['-'] text).getD text) := by
  unfold isPlainNumber at number
  generalize (behind? ['-'] text).getD text = unsigned at number ⊢
  dsimp only at number
  have parts : ∃ whole places, whole ≠ [] ∧ (∀ c ∈ whole, c.isDigit = true) ∧
      (∀ c ∈ places, c.isDigit = true) ∧
        (before? '%' unsigned).getD unsigned = decimalText whole places := by
    generalize (before? '%' unsigned).getD unsigned = bare at number ⊢
    have split := (List.takeWhile_append_dropWhile (p := (· != '.')) (l := bare)).symm
    cases rest : bare.dropWhile (· != '.') with
    | nil =>
      rw [rest] at number split
      obtain ⟨something, digits⟩ := isDigits_iff.mp number
      exact ⟨_, [], something, digits, by simp, by rw [decimalText_nil]; simpa using split⟩
    | cons point fraction =>
      rw [rest] at number split
      obtain ⟨before, behind⟩ := Bool.and_eq_true_iff.mp number
      obtain ⟨something, digits⟩ := isDigits_iff.mp before
      obtain ⟨more, places⟩ := isDigits_iff.mp behind
      -- the character that stops the digits is the point
      obtain rfl : point = '.' := by
        have stopped := List.head?_dropWhile_not (· != '.') bare
        rw [rest] at stopped
        simpa using stopped
      exact ⟨_, fraction, something, digits, places,
        by rw [decimalText_of_ne_nil _ more]; exact split⟩
  obtain ⟨whole, places, something, wholeDigits, placesDigits, bare⟩ := parts
  cases ends : before? '%' unsigned with
  | none =>
    rw [ends, Option.getD_none] at bare
    rw [bare]
    exact .number something wholeDigits placesDigits
  | some start =>
    rw [ends, Option.getD_some] at bare
    rw [before?_eq_some_iff.mp ends, bare]
    exact .percent something wholeDigits placesDigits

/-! ## The sign key -/

/-- **The sign key negates what the text denotes**, whichever of its cases applies. -/
theorem Denotes.toggles {buffer next : Buffer} {value : Binary64}
    (denotes : Denotes buffer.text value) (something : buffer.text ≠ [])
    (toggles : buffer.Toggles next) : Denotes next.text (-value) := by
  cases toggles with
  | begun nothing => exact absurd nothing something
  | unwrapped unwrapped =>
    -- that the inside stays open is what the sign key has checked
    obtain ⟨wrapped, stays⟩ := unwrap?_eq_some_iff.mp unwrapped
    rw [wrapped] at denotes
    exact denotes.unwrap (staysOpen_zero_iff.mp stays)
  | @unsigned unsigned _ number signed =>
    -- the text is the number behind the sign, negated, so the number alone denotes the opposite
    have isUnsigned := isUnsigned_of_isPlainNumber number
    rw [behind?_eq_some_iff.mpr signed, Option.getD_some] at isUnsigned
    obtain ⟨positive, bare, negative⟩ := isUnsigned.exists_denotes
    rw [signed] at denotes
    rw [denotes.unique negative, Binary64.neg_neg]
    exact bare
  | signed _ number positive _ =>
    have isUnsigned := isUnsigned_of_isPlainNumber number
    rw [behind?_eq_none_iff.mpr positive, Option.getD_none] at isUnsigned
    obtain ⟨read, bare, negative⟩ := isUnsigned.exists_denotes
    rw [denotes.unique bare]
    exact negative
  | wrapped _ _ _ _ => exact denotes.wrap

/-- **The sign key negates.** Let the tokens of a text be an expression of the grammar, with a
value. If the sign key is accepted, the tokens of the new text are an expression again, and its
value is the opposite. -/
theorem compute_toggleSign {buffer next : Buffer} {tokens : List Token} {value : Binary64}
    (something : buffer.text ≠ []) (scanned : Token.scan (normalize buffer.text) = .ok tokens)
    (grammatical : IsGrammatical tokens) (computed : compute (normalize buffer.text) = .ok value)
    (toggled : buffer.toggleSign = (.ok (), next)) :
    (∃ tokens, Token.scan (normalize next.text) = .ok tokens ∧ IsGrammatical tokens) ∧
      compute (normalize next.text) = .ok (-value) := by
  have denotes : Denotes buffer.text value :=
    denotes_iff.mpr ⟨⟨tokens, scanned, grammatical⟩, computed⟩
  exact denotes_iff.mp (denotes.toggles something (Buffer.toggleSign_eq_ok_iff.mp toggled))

/-- `5 −2%`, with a blank and a glyph, is wrapped. -/
theorem compute_toggleSign_of_difference :
    let buffer : Buffer := ⟨['5', ' ', '−', '2', '%'], 120⟩
    let next : Buffer := ⟨['(', '-', '1', ')', '*', '(', '5', ' ', '−', '2', '%', ')'], 120⟩
    let five := Binary64.ofDecimal 5 0
    let two := Binary64.ofDecimal 2 0
    let hundredth := Binary64.ofDecimal 1 2
    let tokens : List Token := [.number five, .operation .subtract, .number two,
      .operation .multiply, .number hundredth]
    let value := five - two * hundredth
    (buffer.text ≠ [] ∧ Token.scan (normalize buffer.text) = .ok tokens ∧ IsGrammatical tokens ∧
      compute (normalize buffer.text) = .ok value ∧ buffer.toggleSign = (.ok (), next)) ∧
      (∃ tokens, Token.scan (normalize next.text) = .ok tokens ∧ IsGrammatical tokens) ∧
        compute (normalize next.text) = .ok (-value) := by
  intro buffer next five two hundredth tokens value
  have something : buffer.text ≠ [] := by decide
  have scanned : Token.scan (normalize buffer.text) = .ok tokens := rfl
  have product : Derives .term ([.number two] ++ .operation .multiply :: [.number hundredth])
      (.apply .multiply (.number two) (.number hundredth)) :=
    .multiplicative rfl (.ofFactor (.number two)) (.number hundredth)
  have grammatical : IsGrammatical tokens :=
    ⟨_, .additive rfl (.sum_of_factor (.number five)) product⟩
  have computed : compute (normalize buffer.text) = .ok value := rfl
  have toggled : buffer.toggleSign = (.ok (), next) := rfl
  exact ⟨⟨something, scanned, grammatical, computed, toggled⟩,
    compute_toggleSign something scanned grammatical computed toggled⟩

end PocketCalc
