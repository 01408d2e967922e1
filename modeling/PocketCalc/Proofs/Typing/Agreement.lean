import PocketCalc.Proofs.Expression.Acceptance
import PocketCalc.Proofs.Typing.Stage

/-! # Agreement of typing and evaluation

Typing checks each character by a few local rules; evaluation scans and parses the whole text. On
typed texts that end in a value and leave no parenthesis open the two agree, spoilt texts apart:
what is not spoilt is an expression of the grammar, and what is spoilt is malformed.

* **`Typed.prepare_eq_ok_iff`** — when a typed text passes the first checks of the evaluator.
* **`Typed.malformed_of_spoilt`**, **`Typed.isGrammatical_of_not_spoilt`** — the two cases then.
* **`Typed.isAccepted_iff`** — which typed texts are accepted.
* **`malformed_iff_spoilt_of_editAll`** — agreement after any editing without the sign key. -/

namespace PocketCalc

/-! ## Typed characters -/

/-- The characters that can be typed besides the digits. -/
def typableSigns : List Char := ['.', '%', '(', ')', '+', '-', '*', '/']

/-- A character that can be typed. -/
def isTypable (c : Char) : Bool := c.isDigit || typableSigns.contains c

/-- A typable character is a digit or one of the signs. -/
theorem isTypable_iff {c : Char} :
    isTypable c = true ↔ c.isDigit = true ∨ c ∈ typableSigns := by
  rw [isTypable, Bool.or_eq_true, List.contains_iff_mem]

/-- Only typable characters are admitted. -/
theorem Admits.isTypable {text : List Char} {c : Char} (admits : Admits text c) :
    isTypable c = true := by
  cases admits with
  | digit digit => exact isTypable_iff.mpr (.inl digit)
  | operator operator _ => rcases isOperator_iff.mp operator with rfl | rfl | rfl | rfl <;> rfl
  | _ => rfl

/-- A typed text has typable characters only. -/
theorem Typed.isTypable {text : List Char} (typed : Typed text) :
    ∀ c ∈ text, isTypable c = true := by
  induction typed with
  | nil => simp
  | concat _ admits ih =>
    intro c member
    rcases List.mem_append.mp member with before | last
    · exact ih c before
    · rw [List.mem_singleton.mp last]
      exact admits.isTypable

/-- A typable character is plain. -/
theorem plain_of_isTypable {c : Char} (typable : isTypable c = true) : plain c = c := by
  rcases isTypable_iff.mp typable with digit | sign
  · exact plain_of_isDigit digit
  · have every : typableSigns.all (fun c => plain c == c) = true := rfl
    exact beq_iff_eq.mp (List.all_eq_true.mp every c sign)

/-- A typable character is not blank. -/
theorem isBlank_of_isTypable {c : Char} (typable : isTypable c = true) : isBlank c = false := by
  rcases isTypable_iff.mp typable with digit | sign
  · exact isBlank_eq_false_of_isDigit digit
  · have every : typableSigns.all (fun c => !isBlank c) = true := rfl
    simpa using List.all_eq_true.mp every c sign

/-- A typable character is normalized to characters of expressions. -/
theorem isExpressionChar_of_isTypable {c d : Char} (typable : isTypable c = true)
    (member : d ∈ if c = '%' then percentText else [c]) : isExpressionChar d = true := by
  split at member
  · have every : percentText.all isExpressionChar = true := rfl
    exact List.all_eq_true.mp every d member
  · rename_i other
    obtain rfl : d = c := List.mem_singleton.mp member
    rcases isTypable_iff.mp typable with digit | sign
    · simp [isExpressionChar, digit]
    · have every : typableSigns.all (fun c => c == '%' || isExpressionChar c) = true := rfl
      simpa [other] using List.all_eq_true.mp every d sign

/-! ## The first checks -/

/-- A text without blanks is trimmed to itself. -/
theorem trim_eq_self {text : List Char} (visible : ∀ c ∈ text, isBlank c = false) :
    trim text = text := by
  have kept : ∀ text : List Char, (∀ c ∈ text, isBlank c = false) →
      text.dropWhile isBlank = text := by
    intro text visible
    cases text with
    | nil => rfl
    | cons c rest => rw [List.dropWhile_cons_of_neg (by simp [visible c (.head _)])]
  rw [trim, kept text visible, kept text.reverse (by simpa using visible), List.reverse_reverse]

/-- A value ends exactly where no operand is needed any more. -/
theorem endsIncomplete_eq_not_endsValue (last : Option Char) :
    endsIncomplete last = !endsValue last := by
  cases last with
  | none => rfl
  | some c => simp [endsIncomplete, endsValue]

/-- A digit ends a value. -/
theorem endsValue_of_isDigit {c : Char} (digit : c.isDigit = true) :
    endsValue (some c) = true := by
  have noOpening : c ≠ '(' := ne_of_isDigit digit rfl
  have noPoint : c ≠ '.' := ne_of_isDigit digit rfl
  have noOperator : isOperator c = false := by
    have inside := endsNumeral_of_isDigit digit
    simp only [endsNumeral, Bool.or_eq_false_iff] at inside
    exact inside.1.1.1
  simp [endsValue, noOpening, noPoint, noOperator]

/-- Typable characters have no glyphs among them. -/
theorem plainText_eq_self {text : List Char} (typable : ∀ c ∈ text, isTypable c = true) :
    plainText text = text := by
  have same : ∀ c ∈ text, plain c = id c := fun c member => plain_of_isTypable (typable c member)
  calc plainText text
      _ = text.map id := List.map_congr_left same
      _ = text := List.map_id text

/-- **Typable characters pass the first checks** exactly if no parenthesis is open and a value ends
with them. -/
theorem prepare_eq_ok_iff_of_isTypable {text : List Char}
    (typable : ∀ c ∈ text, isTypable c = true) :
    prepare text = .ok (some (normalize text)) ↔
      openParens text = 0 ∧ endsValue text.getLast? = true := by
  have trimmed : trim text = text :=
    trim_eq_self fun c member => isBlank_of_isTypable (typable c member)
  have inside : ∀ c ∈ normalize text, isExpressionChar c = true := by
    intro d member
    rw [normalize, plainText_eq_self typable] at member
    obtain ⟨c, source, written⟩ := List.mem_flatMap.mp member
    exact isExpressionChar_of_isTypable (typable c source) written
  rw [prepare_eq_ok_some_iff, trimmed, plainText_eq_self typable,
    endsIncomplete_eq_not_endsValue, Bool.not_eq_false']
  constructor
  · rintro ⟨-, -, balanced, value, -⟩
    exact ⟨balanced, value⟩
  · rintro ⟨balanced, value⟩
    have something : text ≠ [] := by
      rintro rfl
      simp [endsValue] at value
    exact ⟨something, inside, balanced, value, rfl⟩

namespace Typed

variable {text : List Char}

/-- **A typed text passes the first checks** exactly if no parenthesis is open and a value ends with
it. -/
theorem prepare_eq_ok_iff (typed : Typed text) :
    prepare text = .ok (some (normalize text)) ↔
      openParens text = 0 ∧ endsValue text.getLast? = true :=
  prepare_eq_ok_iff_of_isTypable typed.isTypable

/-! ## The two cases -/

/-- **A spoilt text is malformed** once it passes the first checks. A second point stops the
scanner; a value behind a closing parenthesis is surplus, and since no operand is missing, nothing
makes up for it. -/
theorem malformed_of_spoilt (typed : Typed text) (balanced : openParens text = 0)
    (value : endsValue text.getLast? = true) (spoilt : Spoilt text) :
    ∃ cause, evaluate text = .error (.malformed cause) := by
  have prepared := typed.prepare_eq_ok_iff.mpr ⟨balanced, value⟩
  cases parsed : parse (normalize text) with
  | error cause => exact ⟨cause, (evaluate_of_prepare prepared).1 cause parsed⟩
  | ok expression =>
    obtain ⟨tokens, ordered, scanned, written, rebuilt⟩ := parse_eq_ok_iff.mp parsed
    have equal : missing tokens = surplus tokens := missing_eq_surplus written rebuilt
    rcases typed.stage.valued value with valued | ⟨-, stopped⟩
    · -- the surplus value is counted, but no operand is missing, so the text is not parsed
      obtain ⟨before, run, numeral, depth, extra, progress, finished, reading⟩ := valued
      have whole := progress.scans.finish finished
      rw [scanned, Except.ok.injEq] at whole
      have positive : 0 < extra := progress.extra_pos_iff.mpr (spoilt.resolve_right progress.sound)
      obtain ⟨counted, complete⟩ := reading.counts []
      rw [List.append_nil, ← whole] at counted complete
      rw [missing, complete, surplus, counted] at equal
      simp [missingFrom, surplusFrom] at equal
      omega
    · -- the second point already stops the scanner
      obtain ⟨fault, found⟩ := stopped []
      rw [List.append_nil, scanned] at found
      cases found

/-- **What is not spoilt is an expression**, if no parenthesis is open and a value ends with it. -/
theorem isGrammatical_of_not_spoilt (typed : Typed text) (balanced : openParens text = 0)
    (value : endsValue text.getLast? = true) (sound : ¬ Spoilt text) :
    ∃ tokens, Token.scan (normalize text) = .ok tokens ∧ IsGrammatical tokens := by
  rcases typed.stage.valued value with valued | stopped
  · obtain ⟨before, run, numeral, depth, extra, progress, finished, reading⟩ := valued
    obtain rfl : extra = 0 := by
      apply Nat.eq_zero_of_not_pos
      intro positive
      exact sound (.inl (progress.extra_pos_iff.mp positive))
    obtain rfl : depth = 0 := by
      rw [progress.openParens_eq] at balanced
      exact Int.ofNat_eq_zero.mp balanced
    exact ⟨before ++ numeral, progress.scans.finish finished, reading.isGrammatical⟩
  · exact absurd (.inr stopped.1) sound

/-- **Which typed texts are accepted**: those with no open parenthesis that end in a value and are
not spoilt. -/
theorem isAccepted_iff (typed : Typed text) :
    IsAccepted text ↔
      (openParens text = 0 ∧ endsValue text.getLast? = true) ∧ ¬ Spoilt text := by
  constructor
  · intro accepted
    have complete := typed.prepare_eq_ok_iff.mp (PocketCalc.isAccepted_iff.mp accepted).1
    refine ⟨complete, ?_⟩
    intro spoilt
    obtain ⟨cause, malformed⟩ := typed.malformed_of_spoilt complete.1 complete.2 spoilt
    simp [IsAccepted, malformed] at accepted
  · rintro ⟨complete, sound⟩
    obtain ⟨tokens, scanned, grammatical⟩ :=
      typed.isGrammatical_of_not_spoilt complete.1 complete.2 sound
    exact grammatical.isAccepted scanned (typed.prepare_eq_ok_iff.mpr complete)

end Typed

/-! ## Agreement -/

/-- No value ends exactly at the start and behind an operator, an opening parenthesis or a point. -/
theorem endsValue_eq_true {last : Option Char} {c : Char} (ends : last = some c)
    (operator : isOperator c = false) (opening : c ≠ '(') (point : c ≠ '.') :
    endsValue last = true := by
  simp [ends, endsValue, operator, opening, point]

/-- **Typing and evaluation agree**, spoilt texts apart. Let a text be typed and deleted in any
order, without the sign key, and let it have no open parenthesis and end neither in an operator nor
in an opening parenthesis nor in a point. It is malformed exactly if it is spoilt, and if not, it is
accepted and an expression of the grammar. -/
theorem malformed_iff_spoilt_of_editAll (limit : Nat) {edits : List Edit}
    (unsigned : .toggleSign ∉ edits) {text : List Char}
    (edited : ((Buffer.empty limit).editAll edits).text = text)
    (balanced : openParens text = 0) {last : Char} (ends : text.getLast? = some last)
    (operator : isOperator last = false) (opening : last ≠ '(') (point : last ≠ '.') :
    ((∃ cause, evaluate text = .error (.malformed cause)) ↔ Spoilt text) ∧
      (¬ Spoilt text → IsAccepted text ∧
        ∃ tokens, Token.scan (normalize text) = .ok tokens ∧ IsGrammatical tokens) := by
  have typed : Typed text := edited ▸ Buffer.typed_editAll .nil unsigned
  have value : endsValue text.getLast? = true := endsValue_eq_true ends operator opening point
  have sound (unspoilt : ¬ Spoilt text) : IsAccepted text :=
    typed.isAccepted_iff.mpr ⟨⟨balanced, value⟩, unspoilt⟩
  refine ⟨⟨?_, typed.malformed_of_spoilt balanced value⟩, ?_⟩
  · rintro ⟨cause, malformed⟩
    apply Classical.byContradiction
    intro unspoilt
    have accepted := sound unspoilt
    simp [IsAccepted, malformed] at accepted
  · intro unspoilt
    exact ⟨sound unspoilt, typed.isGrammatical_of_not_spoilt balanced value unspoilt⟩

/-- The keys of `(2+3)*4%`, with a refused point, a wrong digit and its deletion. -/
theorem malformed_iff_spoilt_of_group_percent :
    let edits := [.symbol '(', .symbol '2', .symbol '+', .symbol '3', .symbol ')', .symbol '.',
      .symbol '7', .backspace, .symbol '×', .symbol '4', .symbol '%']
    let text := ['(', '2', '+', '3', ')', '*', '4', '%']
    .toggleSign ∉ edits ∧ ((Buffer.empty 120).editAll edits).text = text ∧ openParens text = 0 ∧
      text.getLast? = some '%' ∧
      ((∃ cause, evaluate text = .error (.malformed cause)) ↔ Spoilt text) ∧
      (¬ Spoilt text → IsAccepted text ∧
        ∃ tokens, Token.scan (normalize text) = .ok tokens ∧ IsGrammatical tokens) := by
  intro edits text
  have unsigned : .toggleSign ∉ edits := by decide
  have edited : ((Buffer.empty 120).editAll edits).text = text := by decide
  have balanced : openParens text = 0 := by decide
  have ends : text.getLast? = some '%' := rfl
  exact ⟨unsigned, edited, balanced, ends, malformed_iff_spoilt_of_editAll 120 unsigned edited
    balanced ends rfl (by decide) (by decide)⟩

end PocketCalc
