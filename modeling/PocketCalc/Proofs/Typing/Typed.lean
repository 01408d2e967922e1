import PocketCalc.Proofs.Typing.SignKey

/-! # Typed texts

A text is typed if each of its characters was admitted behind those before it. Keys never leave the
typed texts: what a key appends is admitted character by character, also where a point brings its
own zero, and deleting takes back the last admission.

* **`Admits`** — the characters that may follow a text, rule by rule.
* **`admission_eq_ok_iff`** — these are the characters that are admitted.
* **`Typed`** — texts whose characters were admitted one by one.
* **`Buffer.edit`** — the keys that edit a buffer.
* **`Buffer.edited_edit`** — what each of them can do to it.
* **`Buffer.typed_editAll`** — without the sign key, editing an empty buffer gives a typed text. -/

namespace PocketCalc

/-! ## What may follow a text -/

/-- Whether an operand is due behind this last character: at the start, and behind an opening
parenthesis or an operator. -/
def awaitsOperand : Option Char → Bool
  | none => true
  | some c => c == '(' || isOperator c

/-- **The characters that may follow a text.** -/
inductive Admits (text : List Char) : Char → Prop where
  /-- A digit, anywhere. -/
  | digit {c : Char} (digit : c.isDigit = true) : Admits text c
  /-- The first point of a numeral. -/
  | point (first : '.' ∉ currentNumeral text) (unclosed : text.getLast? ≠ some ')') :
      Admits text '.'
  /-- A percent sign behind a value, but not behind another one. -/
  | percent (value : endsValue text.getLast? = true) (single : text.getLast? ≠ some '%') :
      Admits text '%'
  /-- An opening parenthesis where an operand is due. -/
  | opening (awaits : awaitsOperand text.getLast? = true) : Admits text '('
  /-- A closing parenthesis behind a value, if one is open. -/
  | closing (opened : 0 < openParens text) (value : endsValue text.getLast? = true) :
      Admits text ')'
  /-- An operator behind a value. -/
  | operator {c : Char} (operator : isOperator c = true)
      (value : endsValue text.getLast? = true) : Admits text c
  /-- A minus sign where an operand is due, but not behind another one. -/
  | sign (awaits : awaitsOperand text.getLast? = true) (single : text.getLast? ≠ some '-') :
      Admits text '-'

/-- When a point is admitted. -/
theorem admitPoint_eq_ok_iff {text : List Char} :
    admitPoint text = .ok () ↔ '.' ∉ currentNumeral text ∧ text.getLast? ≠ some ')' := by
  unfold admitPoint
  split <;> rename_i refused
  · simp only [Bool.or_eq_true, List.contains_iff_mem, beq_iff_eq] at refused
    refine iff_of_false (by simp) ?_
    rintro ⟨first, unclosed⟩
    exact refused.elim first unclosed
  · simpa [not_or] using refused

/-- When a percent sign is admitted. -/
theorem admitPercent_eq_ok_iff {text : List Char} :
    admitPercent text = .ok () ↔
      endsValue text.getLast? = true ∧ text.getLast? ≠ some '%' := by
  unfold admitPercent
  split <;> rename_i value
  · simpa using value
  · simpa only [Bool.and_eq_true, bne_iff_ne, reduceCtorEq, false_iff] using value

/-- When an opening parenthesis is admitted. -/
theorem admitOpening_eq_ok_iff {text : List Char} :
    admitOpening text = .ok () ↔ awaitsOperand text.getLast? = true := by
  unfold admitOpening
  cases text.getLast? with
  | none => simp [awaitsOperand]
  | some c => by_cases due : (c == '(' || isOperator c) = true <;> simp [awaitsOperand, due]

/-- When a closing parenthesis is admitted. -/
theorem admitClosing_eq_ok_iff {text : List Char} :
    admitClosing text = .ok () ↔ 0 < openParens text ∧ endsValue text.getLast? = true := by
  unfold admitClosing
  by_cases closed : openParens text ≤ 0
  · simp [closed, Int.not_lt.mpr closed]
  · have opened : 0 < openParens text := Int.not_le.mp closed
    by_cases value : endsValue text.getLast? = true <;> simp [closed, value, opened]

/-- When an operator is admitted. -/
theorem admitOperator_eq_ok_iff {text : List Char} {operator : Char} :
    admitOperator text operator = .ok () ↔ endsValue text.getLast? = true ∨
      operator = '-' ∧ awaitsOperand text.getLast? = true ∧ text.getLast? ≠ some '-' := by
  unfold admitOperator
  cases text.getLast? with
  | none => by_cases minus : operator = '-' <;> simp [minus, endsValue, awaitsOperand]
  | some c =>
    by_cases behind : isOperator c = true
    · by_cases minus : operator = '-' <;> by_cases twice : c = '-' <;>
        simp [behind, minus, twice, endsValue, awaitsOperand]
    · by_cases opened : c = '('
      · by_cases minus : operator = '-' <;>
          simp [opened, minus, endsValue, awaitsOperand, isOperator]
      · rw [Bool.not_eq_true] at behind
        by_cases point : (c == '.') = true <;>
          simp [behind, opened, point, endsValue, awaitsOperand]

/-- **A character is admitted exactly if one of the rules lets it follow.** -/
theorem admission_eq_ok_iff {text : List Char} {c : Char} :
    admission text c = .ok () ↔ Admits text c := by
  constructor
  · -- the branches of the decision in order, each with the rule it applies
    intro admitted
    unfold admission at admitted
    split at admitted
    · exact .digit ‹_›
    split at admitted
    · obtain rfl : c = '.' := ‹_›
      obtain ⟨first, unclosed⟩ := admitPoint_eq_ok_iff.mp admitted
      exact .point first unclosed
    split at admitted
    · obtain rfl : c = '%' := ‹_›
      obtain ⟨value, single⟩ := admitPercent_eq_ok_iff.mp admitted
      exact .percent value single
    split at admitted
    · obtain rfl : c = '(' := ‹_›
      exact .opening (admitOpening_eq_ok_iff.mp admitted)
    split at admitted
    · obtain rfl : c = ')' := ‹_›
      obtain ⟨opened, value⟩ := admitClosing_eq_ok_iff.mp admitted
      exact .closing opened value
    split at admitted
    · rcases admitOperator_eq_ok_iff.mp admitted with value | ⟨rfl, awaits, single⟩
      · exact .operator ‹_› value
      · exact .sign awaits single
    · simp at admitted
  · intro admits
    cases admits with
    | digit digit => exact admission_of_isDigit digit text
    | point first unclosed => exact admitPoint_eq_ok_iff.mpr ⟨first, unclosed⟩
    | percent value single => exact admitPercent_eq_ok_iff.mpr ⟨value, single⟩
    | opening awaits => exact admitOpening_eq_ok_iff.mpr awaits
    | closing opened value => exact admitClosing_eq_ok_iff.mpr ⟨opened, value⟩
    | operator operator value =>
      have admitted : admitOperator text c = .ok () := admitOperator_eq_ok_iff.mpr (.inl value)
      rcases isOperator_iff.mp operator with rfl | rfl | rfl | rfl <;> exact admitted
    | sign awaits single => exact admitOperator_eq_ok_iff.mpr (.inr ⟨rfl, awaits, single⟩)

/-! ## Typed texts -/

/-- **A typed text**: each character was admitted behind those before it. -/
inductive Typed : List Char → Prop where
  /-- Nothing is typed. -/
  | nil : Typed []
  /-- One more character is admitted. -/
  | concat {text : List Char} {c : Char} (typed : Typed text) (admits : Admits text c) :
      Typed (text ++ [c])

namespace Typed

/-- Deleting the last character leaves a typed text. -/
theorem dropLast {text : List Char} (typed : Typed text) : Typed text.dropLast := by
  cases typed with
  | nil => exact .nil
  | concat typed admits => rwa [List.dropLast_concat]

/-- **What is written for an admitted symbol is admitted character by character.** A point that
brings its zero is admitted behind it, because the zero begins a numeral. -/
theorem append_inserted {text : List Char} {c : Char} (typed : Typed text)
    (admits : Admits text c) : Typed (text ++ Buffer.inserted text c) := by
  unfold Buffer.inserted
  split
  · -- the zero is a digit, and the point behind it is the first of its numeral
    rename_i opens
    have zero : Typed (text ++ ['0']) := typed.concat (.digit (by decide))
    have alone : currentNumeral (text ++ ['0']) = ['0'] := by
      rcases List.eq_nil_or_concat text with rfl | ⟨before, last, rfl⟩
      · decide
      · obtain ⟨-, rfl⟩ : c = '.' ∧ last = '(' := by simpa using opens
        simp [currentNumeral, endsNumeral, isOperator]
    have point : Admits (text ++ ['0']) '.' := .point (by simp [alone]) (by simp)
    have whole := zero.concat point
    rwa [List.append_assoc] at whole
  · exact typed.concat admits

end Typed

/-! ## Editing -/

/-- **A key that edits the buffer.** -/
inductive Edit where
  /-- Type a symbol. -/
  | symbol (symbol : Char)
  /-- Delete the last character. -/
  | backspace
  /-- Delete everything. -/
  | clear
  /-- Press the sign key. -/
  | toggleSign
  deriving DecidableEq, Repr

namespace Buffer

/-- **The buffer after a key**, whether it is refused or not. -/
def edit (buffer : Buffer) : Edit → Buffer
  | .symbol symbol => (buffer.add symbol).2
  | .backspace => buffer.backspace
  | .clear => buffer.clear
  | .toggleSign => buffer.toggleSign.2

/-- The buffer after several keys. -/
def editAll (buffer : Buffer) (edits : List Edit) : Buffer := edits.foldl edit buffer

/-- **What a key does to a buffer.** -/
inductive Edited (buffer : Buffer) : Edit → Buffer → Prop where
  /-- A key that is refused does nothing. -/
  | refused {key : Edit} : Edited buffer key buffer
  /-- A symbol is typed. -/
  | typed {symbol : Char} {next : Buffer} (added : buffer.add symbol = (.ok (), next)) :
      Edited buffer (.symbol symbol) next
  /-- The last character is deleted. -/
  | shortened : Edited buffer .backspace buffer.backspace
  /-- Everything is deleted. -/
  | cleared : Edited buffer .clear buffer.clear
  /-- The sign key does one of its five things. -/
  | toggled {next : Buffer} (toggles : buffer.Toggles next) : Edited buffer .toggleSign next

/-- **A key does nothing else.** -/
theorem edited_edit (buffer : Buffer) (key : Edit) : buffer.Edited key (buffer.edit key) := by
  cases key with
  | symbol symbol =>
    rw [edit]
    rcases added : buffer.add symbol with ⟨refusal | accepted, next⟩
    · obtain rfl := add_eq_of_error added
      exact .refused
    · exact .typed added
  | backspace => exact .shortened
  | clear => exact .cleared
  | toggleSign =>
    rw [edit]
    rcases toggled : buffer.toggleSign with ⟨refusal | accepted, next⟩
    · obtain rfl := toggleSign_eq_of_error toggled
      exact .refused
    · exact .toggled (toggleSign_eq_ok_iff.mp toggled)

/-- Typing keeps a text typed. -/
theorem typed_add {buffer next : Buffer} {symbol : Char} (typed : Typed buffer.text)
    (added : buffer.add symbol = (.ok (), next)) : Typed next.text := by
  obtain ⟨-, admitted, rfl⟩ := add_eq_ok_iff.mp added
  exact typed.append_inserted (admission_eq_ok_iff.mp admitted)

/-- Every key but the sign key keeps a text typed. -/
theorem typed_edit {buffer : Buffer} (typed : Typed buffer.text) {key : Edit}
    (unsigned : key ≠ .toggleSign) : Typed (buffer.edit key).text := by
  generalize change : buffer.edit key = next
  cases change ▸ buffer.edited_edit key with
  | refused => exact typed
  | typed added => exact typed_add typed added
  | shortened => exact typed.dropLast
  | cleared => exact .nil
  | toggled toggles => exact absurd rfl unsigned

/-- **Without the sign key, editing keeps a text typed.** -/
theorem typed_editAll {buffer : Buffer} (typed : Typed buffer.text) {edits : List Edit}
    (unsigned : .toggleSign ∉ edits) : Typed (buffer.editAll edits).text := by
  induction edits generalizing buffer with
  | nil => exact typed
  | cons key rest ih =>
    simp only [List.mem_cons, not_or] at unsigned
    exact ih (typed_edit typed (Ne.symm unsigned.1)) unsigned.2

end Buffer

end PocketCalc
