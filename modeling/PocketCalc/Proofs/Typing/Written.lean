import PocketCalc.Proofs.Typing.Completion
import PocketCalc.Proofs.Typing.Length

/-! # Expressions as they are written

The grammar of expressions, character by character and without a word on keys: numbers, groups,
percent signs behind them, signs before them, and operators between them. Whatever it generates can
be typed as it stands: no character is refused and none is changed, at any depth of parentheses, as
long as there is room.

* **`Written`** — the texts that the grammar generates.
* **`AcceptedBehind`** — a text that can be typed behind another one as it stands.
* **`Typeable`** — what the rules of admission need to know of a text of the grammar.
* **`Written.typeable`** — every text of the grammar is accepted where an operand is due.
* **`addAll_eq_ok_of_written`** — an expression is typed into an empty buffer as it stands. -/

namespace PocketCalc

/-! ## The grammar -/

/-- A number as it is written: digits, or digits, a point and digits. -/
def IsNumeral (text : List Char) : Prop :=
  isDigits text = true ∨
    ∃ whole fraction, isDigits whole = true ∧ isDigits fraction = true ∧
      text = whole ++ '.' :: fraction

/-- **The phrases of which expressions are made.** -/
inductive Phrase where
  /-- A number or a group in parentheses. -/
  | value
  /-- A value, with or without a percent sign behind it. -/
  | operand
  /-- An operand, with or without a minus sign before it. -/
  | signed
  /-- Operands joined by operators. -/
  | expression
  deriving DecidableEq, Repr

/-- **The texts that the grammar generates.** A minus sign may stand at the start of an expression
and behind `+`, `*` and `/`, but not behind another minus sign. -/
inductive Written : Phrase → List Char → Prop where
  /-- A number. -/
  | numeral {text : List Char} (numeral : IsNumeral text) : Written .value text
  /-- An expression in parentheses. -/
  | group {text : List Char} (inside : Written .expression text) :
      Written .value ('(' :: text ++ [')'])
  /-- A value alone. -/
  | bare {text : List Char} (value : Written .value text) : Written .operand text
  /-- A value with a percent sign. -/
  | percent {text : List Char} (value : Written .value text) : Written .operand (text ++ ['%'])
  /-- An operand without a sign. -/
  | unsigned {text : List Char} (operand : Written .operand text) : Written .signed text
  /-- An operand with a sign. -/
  | negative {text : List Char} (operand : Written .operand text) : Written .signed ('-' :: text)
  /-- The first operand. -/
  | single {text : List Char} (first : Written .signed text) : Written .expression text
  /-- A further operand behind an operator other than the minus sign. -/
  | join {operator : Char} {left right : List Char}
      (joins : operator = '+' ∨ operator = '*' ∨ operator = '/')
      (before : Written .expression left) (last : Written .signed right) :
      Written .expression (left ++ operator :: right)
  /-- A further operand behind a minus sign. -/
  | minus {left right : List Char} (before : Written .expression left)
      (last : Written .operand right) : Written .expression (left ++ '-' :: right)

/-! ## Texts accepted as they stand -/

/-- Symbols are typed in two parts, by induction on the first. -/
theorem Buffer.addAll_append_eq_ok {buffer between next : Buffer} {first second : List Char}
    (typed : buffer.addAll first = .ok between) (others : between.addAll second = .ok next) :
    buffer.addAll (first ++ second) = .ok next := by
  induction first generalizing buffer with
  | nil =>
    obtain rfl : buffer = between := Except.ok.inj typed
    exact others
  | cons symbol rest ih =>
    obtain ⟨_, added, behind⟩ := addAll_cons_eq_ok_iff.mp typed
    exact addAll_cons_eq_ok_iff.mpr ⟨_, added, ih behind⟩

/-- **A text that can be typed behind another one as it stands**, in every buffer with enough
room. -/
def AcceptedBehind (before text : List Char) : Prop :=
  ∀ limit, before.length + text.length ≤ limit →
    (Buffer.mk before limit).addAll text = .ok ⟨before ++ text, limit⟩

namespace AcceptedBehind

variable {before : List Char}

/-- Nothing is typed. -/
theorem nil : AcceptedBehind before [] := by
  intro limit _
  rw [List.append_nil]
  rfl

/-- An admitted character that brings no zero. -/
theorem singleton {c : Char} (admits : Admits before c)
    (alone : c ≠ '.' ∨ Buffer.opensNumber before = false) : AcceptedBehind before [c] := by
  intro limit room
  have written : Buffer.inserted before c = [c] :=
    Buffer.inserted_alone fun point => alone.resolve_left (not_not_intro point)
  have plainChar : plain c = c := plain_of_isTypable admits.isTypable
  have typed : (Buffer.mk before limit).add c = (.ok (), ⟨before ++ [c], limit⟩) := by
    rw [Buffer.add_eq_ok_iff, plainChar, written]
    exact ⟨room, admission_eq_ok_iff.mpr admits, rfl⟩
  exact Buffer.addAll_cons_eq_ok_iff.mpr ⟨_, typed, rfl⟩

/-- One text behind another one. -/
theorem append {first second : List Char} (typed : AcceptedBehind before first)
    (others : AcceptedBehind (before ++ first) second) :
    AcceptedBehind before (first ++ second) := by
  intro limit room
  rw [List.length_append, ← Nat.add_assoc] at room
  rw [← List.append_assoc]
  have start := typed limit (Nat.le_of_add_right_le room)
  exact Buffer.addAll_append_eq_ok start (others limit (by rwa [List.length_append]))

/-- Digits are typed anywhere. -/
theorem digits {text : List Char} (all : ∀ c ∈ text, c.isDigit = true) :
    AcceptedBehind before text := by
  induction text generalizing before with
  | nil => exact .nil
  | cons c rest ih =>
    have digit : c.isDigit = true := all c (.head rest)
    have first : AcceptedBehind before [c] :=
      .singleton (.digit digit) (.inl (ne_of_isDigit digit rfl))
    exact first.append (ih fun d member => all d (.tail c member))

end AcceptedBehind

/-! ## Ends of texts -/

/-- Digits are not empty, and the last of them ends a value. -/
theorem exists_getLast?_of_isDigits {text : List Char} (digits : isDigits text = true) :
    (∀ c ∈ text, c.isDigit = true) ∧ ∃ c, text.getLast? = some c ∧ c.isDigit = true := by
  rw [isDigits, Bool.and_eq_true, List.all_eq_true] at digits
  obtain ⟨something, all⟩ := digits
  rcases List.eq_nil_or_concat text with rfl | ⟨start, last, rfl⟩
  · cases something
  · exact ⟨all, last, by simp, all last (by simp)⟩

/-- Digits have no parenthesis. -/
theorem openParens_of_all_isDigit {text : List Char} (all : ∀ c ∈ text, c.isDigit = true) :
    openParens text = 0 := by
  refine openParens_of_forall_ne fun c member => ?_
  have digit := all c member
  exact ⟨ne_of_isDigit digit rfl, ne_of_isDigit digit rfl⟩

/-- An operator is no parenthesis. -/
theorem openParens_of_isOperator {operator : Char} (joins : isOperator operator = true) :
    openParens [operator] = 0 := by
  rcases isOperator_iff.mp joins with rfl | rfl | rfl | rfl <;> rfl

/-- A text that ends a value ends one behind every other text. -/
theorem getLast?_append_of_endsValue (before : List Char) {text : List Char}
    (value : endsValue text.getLast? = true) : (before ++ text).getLast? = text.getLast? := by
  rw [List.getLast?_append]
  cases last : text.getLast? with
  | none => simp [last, endsValue] at value
  | some c => rfl

/-- Where an operand is due no numeral is begun. -/
theorem currentNumeral_of_awaitsOperand {text : List Char}
    (awaits : awaitsOperand text.getLast? = true) : currentNumeral text = [] := by
  rcases List.eq_nil_or_concat text with rfl | ⟨start, last, rfl⟩
  · rfl
  · have outside : endsNumeral last = true := by
      simp only [List.concat_eq_append, List.getLast?_concat, awaitsOperand, Bool.or_eq_true]
        at awaits
      rcases awaits with opening | operator
      · simp [endsNumeral, opening]
      · simp [endsNumeral, operator]
    rw [List.concat_eq_append, currentNumeral_concat_of_endsNumeral outside]

/-- Digits continue the numeral before them. -/
theorem currentNumeral_append_digits (before : List Char) {text : List Char}
    (all : ∀ c ∈ text, c.isDigit = true) :
    currentNumeral (before ++ text) = text.reverse ++ currentNumeral before := by
  have inside : ∀ c ∈ text.reverse, (!endsNumeral c) = true := by
    intro c member
    rw [endsNumeral_of_isDigit (all c (List.mem_reverse.mp member))]
    rfl
  rw [currentNumeral, List.reverse_append, List.takeWhile_append_of_pos inside]
  rfl

/-! ## Texts of the grammar -/

/-- **What the rules of admission need to know of a text of the grammar.** -/
structure Typeable (phrase : Phrase) (text : List Char) : Prop where
  /-- It is accepted where an operand is due; a text that may begin with a sign not behind one. -/
  accepted : ∀ before, awaitsOperand before.getLast? = true → 0 ≤ openParens before →
    (phrase = .signed ∨ phrase = .expression → before.getLast? ≠ some '-') →
      AcceptedBehind before text
  /-- A value ends with it. -/
  value : endsValue text.getLast? = true
  /-- It closes what it opens. -/
  balanced : openParens text = 0
  /-- A percent sign may follow a value. -/
  single : phrase = .value → text.getLast? ≠ some '%'

namespace Typeable

variable {text left right : List Char}

/-- Digits. -/
theorem digits (digits : isDigits text = true) : Typeable .value text := by
  obtain ⟨all, last, ends, digit⟩ := exists_getLast?_of_isDigits digits
  exact {
    accepted := fun _ _ _ _ => .digits all
    value := by rw [ends]; exact endsValue_of_isDigit digit
    balanced := openParens_of_all_isDigit all
    single := by
      intro _
      rw [ends, ne_eq, Option.some.injEq]
      exact ne_of_isDigit digit rfl }

/-- Digits, a point and digits. The numeral that the point continues has only the digits before it,
because what stands before them ends numerals. -/
theorem fraction {whole fraction : List Char} (before : isDigits whole = true)
    (behind : isDigits fraction = true) : Typeable .value (whole ++ '.' :: fraction) := by
  obtain ⟨allWhole, lastWhole, endsWhole, digitWhole⟩ := exists_getLast?_of_isDigits before
  obtain ⟨allFraction, -⟩ := exists_getLast?_of_isDigits behind
  have tail := digits behind
  have last : (whole ++ '.' :: fraction).getLast? = fraction.getLast? := by
    rw [List.append_cons]
    exact getLast?_append_of_endsValue _ tail.value
  exact {
    accepted := by
      intro start awaits _ _
      have ends : (start ++ whole).getLast? = some lastWhole := by
        rw [getLast?_append_of_endsValue start (digits before).value, endsWhole]
      have first : '.' ∉ currentNumeral (start ++ whole) := by
        rw [currentNumeral_append_digits start allWhole, currentNumeral_of_awaitsOperand awaits,
          List.append_nil, List.mem_reverse]
        intro member
        exact absurd (allWhole _ member) (by decide)
      have unclosed : (start ++ whole).getLast? ≠ some ')' := by
        rw [ends, ne_eq, Option.some.injEq]
        exact ne_of_isDigit digitWhole rfl
      have continues : Buffer.opensNumber (start ++ whole) = false := by
        have noOpening : lastWhole ≠ '(' := ne_of_isDigit digitWhole rfl
        simp [Buffer.opensNumber, ends, noOpening]
      have point : AcceptedBehind (start ++ whole) ['.'] :=
        .singleton (.point first unclosed) (.inr continues)
      exact (AcceptedBehind.digits allWhole).append (point.append (.digits allFraction))
    value := by rw [last]; exact tail.value
    balanced := by
      rw [openParens_append, openParens_cons, openParens_of_all_isDigit allWhole, tail.balanced]
      rfl
    single := by
      intro value
      rw [last]
      exact tail.single value }

/-- An expression in parentheses. -/
theorem group (inside : Typeable .expression text) :
    Typeable .value ('(' :: text ++ [')']) where
  accepted := by
    intro before awaits closable _
    have opening : AcceptedBehind before ['('] := .singleton (.opening awaits) (.inl (by decide))
    have deeper : openParens (before ++ ['(']) = openParens before + 1 := openParens_append _ _
    have within : AcceptedBehind (before ++ ['(']) text := by
      apply inside.accepted
      · simp [awaitsOperand]
      · omega
      · simp
    have ends : endsValue (before ++ ['('] ++ text).getLast? = true := by
      rw [getLast?_append_of_endsValue _ inside.value]
      exact inside.value
    have opened : 0 < openParens (before ++ ['('] ++ text) := by
      rw [openParens_append, deeper, inside.balanced]
      omega
    have closing : AcceptedBehind (before ++ ['('] ++ text) [')'] :=
      .singleton (.closing opened ends) (.inl (by decide))
    exact opening.append (within.append closing)
  value := by
    rw [List.getLast?_concat]
    rfl
  balanced := by
    rw [List.cons_append, openParens_cons, openParens_append, inside.balanced]
    rfl
  single := by
    rw [List.getLast?_concat]
    simp

/-- A value alone is an operand. -/
theorem bare (value : Typeable .value text) : Typeable .operand text where
  accepted := fun before awaits closable _ => value.accepted before awaits closable (by simp)
  value := value.value
  balanced := value.balanced
  single := by simp

/-- A value with a percent sign. -/
theorem percent (value : Typeable .value text) : Typeable .operand (text ++ ['%']) where
  accepted := by
    intro before awaits closable _
    have start := value.accepted before awaits closable (by simp)
    have last := getLast?_append_of_endsValue before value.value
    have sign : AcceptedBehind (before ++ text) ['%'] := by
      apply AcceptedBehind.singleton (.percent _ _) (.inl (by decide))
      · rw [last]
        exact value.value
      · rw [last]
        exact value.single rfl
    exact start.append sign
  value := by simp [endsValue, isOperator]
  balanced := by
    rw [openParens_append, value.balanced]
    rfl
  single := by simp

/-- An operand without a sign. -/
theorem unsigned (operand : Typeable .operand text) : Typeable .signed text where
  accepted := fun before awaits closable _ => operand.accepted before awaits closable (by simp)
  value := operand.value
  balanced := operand.balanced
  single := by simp

/-- An operand with a sign. -/
theorem negative (operand : Typeable .operand text) : Typeable .signed ('-' :: text) where
  accepted := by
    intro before awaits closable unsigned
    have sign : AcceptedBehind before ['-'] :=
      .singleton (.sign awaits (unsigned (.inl rfl))) (.inl (by decide))
    have level : openParens (before ++ ['-']) = openParens before + 0 := openParens_append _ _
    have behind : AcceptedBehind (before ++ ['-']) text := by
      apply operand.accepted
      · simp [awaitsOperand, isOperator]
      · omega
      · simp
    exact sign.append behind
  value := by
    have ends := getLast?_append_of_endsValue ['-'] operand.value
    rw [List.singleton_append] at ends
    rw [ends]
    exact operand.value
  balanced := by
    rw [openParens_cons, operand.balanced]
    rfl
  single := by simp

/-- The first operand is an expression. -/
theorem single_expression (first : Typeable .signed text) : Typeable .expression text where
  accepted := fun before awaits closable unsigned =>
    first.accepted before awaits closable fun _ => unsigned (.inr rfl)
  value := first.value
  balanced := first.balanced
  single := by simp

/-- **A further operand behind an operator**: a value ends before the operator, and behind it an
operand is due. -/
theorem join {phrase : Phrase} {operator : Char} (joins : isOperator operator = true)
    (before : Typeable .expression left) (last : Typeable phrase right)
    (unsigned : phrase = .signed ∨ phrase = .expression → operator ≠ '-') :
    Typeable .expression (left ++ operator :: right) where
  accepted := by
    intro start awaits closable signs
    have first := before.accepted start awaits closable signs
    have ends : endsValue (start ++ left).getLast? = true := by
      rw [getLast?_append_of_endsValue start before.value]
      exact before.value
    have noPoint : operator ≠ '.' := by
      rintro rfl
      cases joins
    have sign : AcceptedBehind (start ++ left) [operator] :=
      .singleton (.operator joins ends) (.inl noPoint)
    have behind : AcceptedBehind (start ++ left ++ [operator]) right := by
      apply last.accepted
      · simp [awaitsOperand, joins]
      · rw [openParens_append, openParens_append, before.balanced, openParens_of_isOperator joins]
        omega
      · intro mayBegin
        simpa using unsigned mayBegin
    exact first.append (sign.append behind)
  value := by
    rw [List.append_cons, getLast?_append_of_endsValue _ last.value]
    exact last.value
  balanced := by
    rw [List.append_cons, openParens_append, openParens_append, before.balanced, last.balanced,
      openParens_of_isOperator joins]
    rfl
  single := by simp

end Typeable

/-- **Every text of the grammar is accepted where an operand is due**, by induction on how it is
generated. -/
theorem Written.typeable {phrase : Phrase} {text : List Char} (written : Written phrase text) :
    Typeable phrase text := by
  induction written with
  | numeral numeral =>
    rcases numeral with digits | ⟨whole, fraction, before, behind, rfl⟩
    · exact .digits digits
    · exact .fraction before behind
  | group _ ih => exact ih.group
  | bare _ ih => exact ih.bare
  | percent _ ih => exact ih.percent
  | unsigned _ ih => exact ih.unsigned
  | negative _ ih => exact ih.negative
  | single _ ih => exact ih.single_expression
  | join joins _ _ ihLeft ihRight =>
    rcases joins with rfl | rfl | rfl
    · exact .join rfl ihLeft ihRight (by decide)
    · exact .join rfl ihLeft ihRight (by decide)
    · exact .join rfl ihLeft ihRight (by decide)
  | minus _ _ ihLeft ihRight => exact .join rfl ihLeft ihRight (by simp)

/-- **Every expression can be typed as it stands**: if it has no more characters than the buffer may
have, each of them is accepted in its turn, and together they are the text of the buffer. -/
theorem addAll_eq_ok_of_written (limit : Nat) {text : List Char}
    (written : Written .expression text) (room : text.length ≤ limit) :
    (Buffer.empty limit).addAll text = .ok ⟨text, limit⟩ := by
  have accepted : AcceptedBehind [] text :=
    written.typeable.accepted [] rfl (Int.le_refl 0) (by simp)
  exact accepted limit (by rwa [List.length_nil, Nat.zero_add])

/-- `(1.5+-2)%*-3-4` fills a buffer of fourteen places. -/
theorem addAll_eq_ok_of_written_group_percent :
    let text := ['(', '1', '.', '5', '+', '-', '2', ')', '%', '*', '-', '3', '-', '4']
    Written .expression text ∧ text.length ≤ 14 ∧
      (Buffer.empty 14).addAll text = .ok ⟨text, 14⟩ := by
  intro text
  have digit (c : Char) (isDigit : c.isDigit = true) : Written .operand [c] :=
    .bare (.numeral (.inl (by simp [isDigits, isDigit])))
  have decimal : Written .operand ['1', '.', '5'] :=
    .bare (.numeral (.inr ⟨['1'], ['5'], rfl, rfl, rfl⟩))
  have sum : Written .expression (['1', '.', '5'] ++ '+' :: ['-', '2']) :=
    .join (.inl rfl) (.single (.unsigned decimal)) (.negative (digit '2' rfl))
  have product : Written .expression
      ('(' :: (['1', '.', '5'] ++ '+' :: ['-', '2']) ++ [')'] ++ ['%'] ++ '*' :: ['-', '3']) :=
    .join (.inr (.inl rfl)) (.single (.unsigned (.percent (.group sum))))
      (.negative (digit '3' rfl))
  have written : Written .expression text := .minus product (digit '4' rfl)
  have room : text.length ≤ 14 := by decide
  exact ⟨written, room, addAll_eq_ok_of_written 14 written room⟩

end PocketCalc
