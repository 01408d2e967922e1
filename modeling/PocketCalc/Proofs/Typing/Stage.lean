import PocketCalc.Proofs.Expression.Numeral
import PocketCalc.Proofs.Expression.Reading
import PocketCalc.Proofs.Typing.Spoilt

/-! # Stages of typing

The rules of admission look at the last character, at the current numeral and at the number of open
parentheses. This file shows that these tell enough of what the scanner and the grammar make of the
text: at every stage of typing an operand is due, or a group was just closed, or a numeral is being
typed, and the tokens read so far lack no operand. Only a second point in a numeral, which a percent
sign can hide from the rules, stops the scanner.

* **`Progress`** — what is scanned of a typed text, and what spoils it.
* **`Stage`** — the stages of typing.
* **`Typed.stage`** — every typed text is at one of them.
* **`Stage.valued`**, **`Stage.awaited`** — behind a value, and where an operand is due, the whole
  text is read. -/

namespace PocketCalc

/-! ## Characters -/

/-- A digit is no parenthesis. -/
theorem openParens_digit {c : Char} (digit : c.isDigit = true) : openParens [c] = 0 := by
  have noOpening : c ≠ '(' := ne_of_isDigit digit rfl
  have noClosing : c ≠ ')' := ne_of_isDigit digit rfl
  simp [openParens, noOpening, noClosing]

/-- A character that is a token is plain, belongs to no numeral and ends one. -/
theorem plain_of_ofChar? {c : Char} {token : Token} (single : Token.ofChar? c = some token) :
    plain c = c ∧ c ≠ '%' ∧ c ≠ '.' ∧ c.isDigit = false ∧ endsNumeral c = true := by
  unfold Token.ofChar? at single
  split at single
  case h_7 => simp at single
  all_goals decide

/-! ## Progress -/

/-- **What is scanned of a text that no second point has stopped**: finished tokens and an
unfinished run, the open parentheses, and the values that stand behind a closing parenthesis. -/
structure Progress (text : List Char) (tokens : List Token) (run : List Char)
    (depth extra : Nat) : Prop where
  /-- The tokens and the run of the normalized text. -/
  scans : Scans (normalize text) tokens run
  /-- The open parentheses. -/
  openParens_eq : openParens text = depth
  /-- A value is surplus only behind a closing parenthesis. -/
  extra_pos_iff : 0 < extra ↔ ValueBehindClosing text
  /-- No point stands behind a percent sign. -/
  sound : ¬ PointBehindPercent text
  /-- The run has a point exactly if one is written or brought by a percent sign. -/
  mem_run_iff : '.' ∈ run ↔ Pointed text

namespace Progress

variable {text run : List Char} {tokens numeral : List Token} {depth extra : Nat}

/-- Nothing is typed. -/
theorem nil : Progress [] [] [] 0 0 where
  scans := .nil
  openParens_eq := rfl
  extra_pos_iff := by simp [not_valueBehindClosing_nil]
  sound := not_pointBehindPercent_nil
  mem_run_iff := by simp [not_pointed_nil]

/-- A digit goes to the run; behind a closing parenthesis it begins a surplus value. -/
theorem digit (progress : Progress text tokens run depth extra) {c : Char}
    (digit : c.isDigit = true) (counted : Nat)
    (counts : 0 < counted ↔ 0 < extra ∨ text.getLast? = some ')') :
    Progress (text ++ [c]) tokens (run ++ [c]) depth counted where
  scans := by
    rw [normalize_concat text (plain_of_isDigit digit) (ne_of_isDigit digit rfl)]
    exact progress.scans.digit digit
  openParens_eq := by
    rw [openParens_append, progress.openParens_eq, openParens_digit digit, Int.add_zero]
  extra_pos_iff := by
    rw [counts, progress.extra_pos_iff, valueBehindClosing_concat]
    simp [digit]
  sound := by
    have other : c ≠ '.' := ne_of_isDigit digit rfl
    simp [pointBehindPercent_concat, progress.sound, other]
  mem_run_iff := by
    have other : c ≠ '.' := ne_of_isDigit digit rfl
    rw [pointed_concat_digit digit, ← progress.mem_run_iff]
    simp [other.symm]

/-- The first point of a numeral goes to the run. -/
theorem point (progress : Progress text tokens run depth extra) (first : '.' ∉ run) :
    Progress (text ++ ['.']) tokens (run ++ ['.']) depth extra where
  scans := by
    rw [normalize_concat text rfl (by decide)]
    exact progress.scans.point first
  openParens_eq := by
    rw [openParens_append, progress.openParens_eq]
    exact Int.add_zero _
  extra_pos_iff := by
    rw [progress.extra_pos_iff, valueBehindClosing_concat]
    simp
  sound := by
    rw [pointBehindPercent_concat]
    rintro (before | ⟨-, percent⟩)
    · exact progress.sound before
    · exact first (progress.mem_run_iff.mpr (.inr percent))
  mem_run_iff := by simp [pointed_concat_point]

/-- A percent sign finishes a value, multiplies it and begins a numeral of its own. -/
theorem percent (progress : Progress text tokens run depth extra)
    (finished : numeralToken run = .ok numeral) :
    Progress (text ++ ['%']) (tokens ++ numeral ++ [.operation .multiply]) ['0', '.', '0', '1']
      depth extra where
  scans := by
    rw [normalize_concat_percent]
    exact progress.scans.percent finished
  openParens_eq := by
    rw [openParens_append, progress.openParens_eq]
    exact Int.add_zero _
  extra_pos_iff := by
    rw [progress.extra_pos_iff, valueBehindClosing_concat]
    simp
  sound := by simp [pointBehindPercent_concat, progress.sound]
  mem_run_iff := by simp [pointed_concat_percent]

/-- An operator or a parenthesis finishes the run and stands for itself. -/
theorem token (progress : Progress text tokens run depth extra)
    (finished : numeralToken run = .ok numeral) {c : Char} {token : Token}
    (single : Token.ofChar? c = some token) {deeper : Nat}
    (counts : (deeper : Int) = depth + openParens [c]) :
    Progress (text ++ [c]) (tokens ++ numeral ++ [token]) [] deeper extra where
  scans := by
    obtain ⟨plainChar, noPercent, -⟩ := plain_of_ofChar? single
    rw [normalize_concat text plainChar noPercent]
    exact progress.scans.token finished single
  openParens_eq := by rw [openParens_append, progress.openParens_eq, counts]
  extra_pos_iff := by
    obtain ⟨-, -, -, noDigit, -⟩ := plain_of_ofChar? single
    rw [progress.extra_pos_iff, valueBehindClosing_concat]
    simp [noDigit]
  sound := by
    obtain ⟨-, -, noPoint, -⟩ := plain_of_ofChar? single
    simp [pointBehindPercent_concat, progress.sound, noPoint]
  mem_run_iff := by
    obtain ⟨-, noPercent, -, -, ends⟩ := plain_of_ofChar? single
    simp [not_pointed_concat ends noPercent]

end Progress

/-! ## Stages -/

/-- A second point, hidden behind a percent sign, has stopped the scanner for good. -/
def Stopped (text : List Char) : Prop :=
  PointBehindPercent text ∧ ∀ rest, ∃ fault, Token.scan (normalize text ++ rest) = .error fault

/-- Once stopped, the scanner stays so. -/
theorem Stopped.concat {text : List Char} (stopped : Stopped text) (c : Char) :
    Stopped (text ++ [c]) := by
  refine ⟨pointBehindPercent_concat.mpr (.inl stopped.1), ?_⟩
  intro rest
  rw [normalize_append, List.append_assoc]
  exact stopped.2 (normalize [c] ++ rest)

/-- **A stage of typing.** -/
inductive Stage (text : List Char) : Prop where
  /-- An operand is due. -/
  | awaiting {tokens : List Token} {depth extra : Nat}
      (last : awaitsOperand text.getLast? = true)
      (progress : Progress text tokens [] depth extra)
      (reading : Reading false depth extra tokens)
  /-- A group was just closed. -/
  | closed {tokens : List Token} {depth extra : Nat}
      (last : text.getLast? = some ')')
      (progress : Progress text tokens [] depth extra)
      (reading : Reading true depth extra tokens)
  /-- A numeral is being typed; unless it ends in a point, it makes a number. -/
  | numeral {tokens : List Token} {run : List Char} {depth extra : Nat}
      (last : awaitsOperand text.getLast? = false ∧ text.getLast? ≠ some ')')
      (finished : text.getLast? ≠ some '.' → ∃ value, numeralToken run = .ok [.number value])
      (progress : Progress text tokens run depth extra)
      (reading : ∀ value, Reading true depth extra (tokens ++ [.number value]))
  /-- The scanner has stopped. -/
  | stopped (stopped : Stopped text)

/-- **A value ends with the text**: its tokens are read to the end, with the run finished. -/
def Valued (text : List Char) : Prop :=
  ∃ tokens run numeral depth extra, Progress text tokens run depth extra ∧
    numeralToken run = .ok numeral ∧ Reading true depth extra (tokens ++ numeral)

namespace Valued

variable {text : List Char}

/-- A percent sign behind a value begins a numeral. -/
theorem percent (valued : Valued text) : Stage (text ++ ['%']) := by
  obtain ⟨tokens, run, numeral, depth, extra, progress, finished, reading⟩ := valued
  refine .numeral (by simp [awaitsOperand, isOperator]) ?_ (progress.percent finished) ?_
  · intro _
    exact numeralToken_concat_digit ['0', '.', '0'] (show Char.isDigit '1' = true from rfl)
  · intro value
    exact (reading.join .multiply).number value

/-- A closing parenthesis behind a value closes a group. -/
theorem closing (valued : Valued text) (opened : 0 < openParens text) :
    Stage (text ++ [')']) := by
  obtain ⟨tokens, run, numeral, depth, extra, progress, finished, reading⟩ := valued
  obtain ⟨shallower, rfl⟩ : ∃ shallower, depth = shallower + 1 := by
    rw [progress.openParens_eq] at opened
    exact ⟨depth - 1, by omega⟩
  have level : (shallower : Int) = (shallower + 1 : Nat) + openParens [')'] := by
    rw [show openParens [')'] = -1 from rfl]
    omega
  have next := progress.token finished (show Token.ofChar? ')' = some .closing from rfl) level
  exact .closed (by simp) next reading.closing

/-- An operator behind a value asks for an operand. -/
theorem operator (valued : Valued text) {c : Char} (operator : isOperator c = true) :
    Stage (text ++ [c]) := by
  obtain ⟨tokens, run, numeral, depth, extra, progress, finished, reading⟩ := valued
  obtain ⟨operation, single, level⟩ :
      ∃ operation, Token.ofChar? c = some (.operation operation) ∧ openParens [c] = 0 := by
    rcases isOperator_iff.mp operator with rfl | rfl | rfl | rfl <;> exact ⟨_, rfl, rfl⟩
  have next := progress.token finished single (by rw [level, Int.add_zero])
  exact .awaiting (by simp [awaitsOperand, operator]) next (reading.join operation)

end Valued

/-- Where an operand is due, no value ends and no group was closed. -/
theorem endsValue_of_awaitsOperand {last : Option Char} (awaits : awaitsOperand last = true) :
    endsValue last = false ∧ last ≠ some ')' := by
  cases last with
  | none => simp [endsValue]
  | some c =>
    refine ⟨?_, ?_⟩
    · rw [awaitsOperand, Bool.or_eq_true] at awaits
      rcases awaits with opening | operator
      · simp [endsValue, opening]
      · simp [endsValue, operator]
    · rintro ⟨⟩
      simp [awaitsOperand, isOperator] at awaits

namespace Stage

variable {text : List Char}

/-- **Behind a value the text is read to its end**, unless the scanner has stopped. -/
theorem valued (stage : Stage text) (value : endsValue text.getLast? = true) :
    Valued text ∨ Stopped text := by
  cases stage with
  | awaiting last progress reading =>
    rw [(endsValue_of_awaitsOperand last).1] at value
    exact absurd value Bool.false_ne_true
  | closed last progress reading =>
    exact .inl ⟨_, [], [], _, _, progress, rfl, by simpa using reading⟩
  | numeral last finished progress reading =>
    have noPoint : text.getLast? ≠ some '.' := by
      intro point
      simp [point, endsValue] at value
    obtain ⟨number, made⟩ := finished noPoint
    exact .inl ⟨_, _, _, _, _, progress, made, reading number⟩
  | stopped stopped => exact .inr stopped

/-- **Where an operand is due the text is read to its end**, unless the scanner has stopped. -/
theorem awaited (stage : Stage text) (awaits : awaitsOperand text.getLast? = true) :
    (∃ tokens depth extra, Progress text tokens [] depth extra ∧
      Reading false depth extra tokens) ∨ Stopped text := by
  cases stage with
  | awaiting _ progress reading => exact .inl ⟨_, _, _, progress, reading⟩
  | closed closed _ _ => exact absurd closed (endsValue_of_awaitsOperand awaits).2
  | numeral last _ _ _ =>
    rw [last.1] at awaits
    exact absurd awaits Bool.false_ne_true
  | stopped stopped => exact .inr stopped

/-- **A digit begins a numeral or continues it.** Right behind a closing parenthesis, what it begins
is a surplus value. -/
theorem digit (stage : Stage text) {c : Char} (digit : c.isDigit = true) :
    Stage (text ++ [c]) := by
  have last : awaitsOperand (text ++ [c]).getLast? = false ∧
      (text ++ [c]).getLast? ≠ some ')' := by
    have inside := endsNumeral_of_isDigit digit
    simp only [endsNumeral, Bool.or_eq_false_iff, beq_eq_false_iff_ne] at inside
    simp [awaitsOperand, inside]
  cases stage with
  | @awaiting tokens depth extra awaits progress reading =>
    have unclosed := (endsValue_of_awaitsOperand awaits).2
    have next := progress.digit digit extra (by simp [unclosed])
    exact .numeral last (fun _ => numeralToken_concat_digit [] digit) next reading.number
  | @closed tokens depth extra closed progress reading =>
    -- the only way to a surplus value: the rules admit a digit right behind a group
    have next := progress.digit digit (extra + 1) (by simp [closed])
    exact .numeral last (fun _ => numeralToken_concat_digit [] digit) next reading.number
  | @numeral tokens run depth extra before _ progress reading =>
    have next := progress.digit digit extra (by simp [before.2])
    exact .numeral last (fun _ => numeralToken_concat_digit run digit) next reading
  | stopped stopped => exact .stopped (stopped.concat c)

/-- **A point begins a numeral or continues it**, or it is a second point, hidden behind a percent
sign. -/
theorem point (stage : Stage text) (first : '.' ∉ currentNumeral text)
    (unclosed : text.getLast? ≠ some ')') : Stage (text ++ ['.']) := by
  have last : awaitsOperand (text ++ ['.']).getLast? = false ∧
      (text ++ ['.']).getLast? ≠ some ')' := by
    simp [awaitsOperand, isOperator]
  cases stage with
  | awaiting awaits progress reading =>
    exact .numeral last (by simp) (progress.point (by simp)) reading.number
  | closed closed progress reading => exact absurd closed unclosed
  | @numeral tokens run depth extra before _ progress reading =>
    by_cases second : '.' ∈ run
    · -- the typed numeral has no point yet, so the one in the run comes from a percent sign
      have percent : PercentRun text := (progress.mem_run_iff.mp second).resolve_left first
      refine .stopped ⟨pointBehindPercent_concat.mpr (.inr ⟨rfl, percent⟩), ?_⟩
      intro rest
      rw [normalize_concat text rfl (by decide)]
      exact progress.scans.second_point second rest
    · exact .numeral last (by simp) (progress.point second) reading
  | stopped stopped => exact .stopped (stopped.concat '.')

/-- An opening parenthesis where an operand is due asks for another one. -/
theorem opening (stage : Stage text) (awaits : awaitsOperand text.getLast? = true) :
    Stage (text ++ ['(']) := by
  rcases stage.awaited awaits with ⟨tokens, depth, extra, progress, reading⟩ | stopped
  · have next := progress.token (show numeralToken [] = .ok [] from rfl)
      (show Token.ofChar? '(' = some .opening from rfl) rfl
    exact .awaiting (by simp [awaitsOperand]) next (by simpa using reading.opening)
  · exact .stopped (stopped.concat '(')

/-- A minus sign where an operand is due negates, and the operand is still due. -/
theorem sign (stage : Stage text) (awaits : awaitsOperand text.getLast? = true) :
    Stage (text ++ ['-']) := by
  rcases stage.awaited awaits with ⟨tokens, depth, extra, progress, reading⟩ | stopped
  · have next := progress.token (show numeralToken [] = .ok [] from rfl)
      (show Token.ofChar? '-' = some (.operation .subtract) from rfl) rfl
    exact .awaiting (by simp [awaitsOperand, isOperator]) next (by simpa using reading.negate)
  · exact .stopped (stopped.concat '-')

end Stage

/-- **Every typed text is at a stage of typing**, by induction on its characters: whatever is
admitted leads from one stage to another. -/
theorem Typed.stage {text : List Char} (typed : Typed text) : Stage text := by
  induction typed with
  | nil => exact .awaiting rfl .nil .start
  | @concat text c _ admits stage =>
    cases admits with
    | digit digit => exact stage.digit digit
    | point first unclosed => exact stage.point first unclosed
    | percent value single =>
      rcases stage.valued value with valued | stopped
      · exact valued.percent
      · exact .stopped (stopped.concat '%')
    | opening awaits => exact stage.opening awaits
    | closing opened value =>
      rcases stage.valued value with valued | stopped
      · exact valued.closing opened
      · exact .stopped (stopped.concat ')')
    | operator operator value =>
      rcases stage.valued value with valued | stopped
      · exact valued.operator operator
      · exact .stopped (stopped.concat c)
    | sign awaits _ => exact stage.sign awaits

end PocketCalc
