import PocketCalc.Proofs.Typing.Typed
import PocketCalc.Expression.Evaluation

/-! # Spoilt texts

The rules of admission let two things be typed that no expression contains: a digit right behind a
closing parenthesis, and a point in a numeral that begins with a percent sign, where the percent
sign already stands for a numeral with a point. A text with either of them is spoilt, and stays so.

* **`ValueBehindClosing`**, **`PointBehindPercent`**, **`Spoilt`** — the two faults.
* **`PercentRun`**, **`Pointed`** — texts behind which a point is the second of its numeral.
* **`Spoilt.append`** — no further typing mends a spoilt text. -/

namespace PocketCalc

/-- A digit stands right behind a closing parenthesis. -/
def ValueBehindClosing (text : List Char) : Prop :=
  ∃ c, c.isDigit = true ∧ [')', c] <:+: text

/-- A point stands behind a percent sign, with nothing but digits between them. -/
def PointBehindPercent (text : List Char) : Prop :=
  ∃ digits, (∀ c ∈ digits, c.isDigit = true) ∧ '%' :: digits ++ ['.'] <:+: text

/-- **A spoilt text**: a digit follows a closing parenthesis, or a point follows a percent sign in
the same numeral. -/
def Spoilt (text : List Char) : Prop := ValueBehindClosing text ∨ PointBehindPercent text

/-- **What is spoilt stays spoilt**, whatever is typed behind it. -/
theorem Spoilt.append {text : List Char} (spoilt : Spoilt text) (more : List Char) :
    Spoilt (text ++ more) := by
  have inside : text <:+: text ++ more := (List.prefix_append text more).isInfix
  rcases spoilt with ⟨c, digit, part⟩ | ⟨digits, all, part⟩
  · exact .inl ⟨c, digit, part.trans inside⟩
  · exact .inr ⟨digits, all, part.trans inside⟩

/-! ## Character by character -/

/-- The text ends with a percent sign and digits behind it. -/
def PercentRun (text : List Char) : Prop :=
  ∃ digits, (∀ c ∈ digits, c.isDigit = true) ∧ '%' :: digits <:+ text

/-- The numeral at the end of the text has a point, written or brought by a percent sign. -/
def Pointed (text : List Char) : Prop := '.' ∈ currentNumeral text ∨ PercentRun text

/-- Nothing stands behind a closing parenthesis in the empty text. -/
theorem not_valueBehindClosing_nil : ¬ ValueBehindClosing [] := by
  rintro ⟨c, -, part⟩
  simpa using part.length_le

/-- Nothing stands behind a percent sign in the empty text. -/
theorem not_pointBehindPercent_nil : ¬ PointBehindPercent [] := by
  rintro ⟨digits, -, part⟩
  simpa using part.length_le

/-- No numeral is begun in the empty text. -/
theorem not_pointed_nil : ¬ Pointed [] := by
  rintro (point | ⟨digits, -, part⟩)
  · simp [currentNumeral] at point
  · simpa using part.length_le

/-- A digit stands behind a closing parenthesis already, or is the character added. -/
theorem valueBehindClosing_concat {text : List Char} {c : Char} :
    ValueBehindClosing (text ++ [c]) ↔
      ValueBehindClosing text ∨ c.isDigit = true ∧ text.getLast? = some ')' := by
  constructor
  · rintro ⟨d, digit, part⟩
    rcases List.infix_concat_iff.mp part with last | before
    · obtain ⟨start, same, behind⟩ := (List.suffix_concat_iff.mp last).resolve_left (by simp)
      have same : [')'] ++ [d] = start ++ [c] := same
      obtain ⟨rfl, rfl⟩ := List.append_singleton_inj.mp same
      exact .inr ⟨digit, List.singleton_suffix_iff_getLast?_eq_some.mp behind⟩
    · exact .inl ⟨d, digit, before⟩
  · rintro (⟨d, digit, part⟩ | ⟨digit, last⟩)
    · exact ⟨d, digit, List.infix_concat_iff.mpr (.inr part)⟩
    · have behind : [')'] <:+ text := List.singleton_suffix_iff_getLast?_eq_some.mpr last
      exact ⟨c, digit, (List.suffix_concat_iff.mpr (.inr ⟨_, rfl, behind⟩)).isInfix⟩

/-- A percent sign begins a run, and digits continue it. -/
theorem percentRun_concat {text : List Char} {c : Char} :
    PercentRun (text ++ [c]) ↔ c = '%' ∨ c.isDigit = true ∧ PercentRun text := by
  constructor
  · rintro ⟨digits, all, part⟩
    obtain ⟨start, same, behind⟩ := (List.suffix_concat_iff.mp part).resolve_left (by simp)
    rcases List.eq_nil_or_concat digits with rfl | ⟨before, last, rfl⟩
    · -- no digits: the percent sign itself is last
      have same : [] ++ ['%'] = start ++ [c] := same
      obtain ⟨-, rfl⟩ := List.append_singleton_inj.mp same
      exact .inl rfl
    · -- the last of the digits is last, and the run ends before it
      rw [List.concat_eq_append, ← List.cons_append] at same
      obtain ⟨rfl, rfl⟩ := List.append_singleton_inj.mp same
      exact .inr ⟨all last (by simp), before, fun d member => all d (by simp [member]), behind⟩
  · rintro (rfl | ⟨digit, digits, all, part⟩)
    · exact ⟨[], by simp, List.suffix_append text ['%']⟩
    · refine ⟨digits ++ [c], ?_, List.suffix_concat_iff.mpr (.inr ⟨_, rfl, part⟩)⟩
      intro d member
      rcases List.mem_append.mp member with before | last
      · exact all d before
      · rwa [List.mem_singleton.mp last]

/-- A point stands behind a percent sign already, or is the character added. -/
theorem pointBehindPercent_concat {text : List Char} {c : Char} :
    PointBehindPercent (text ++ [c]) ↔
      PointBehindPercent text ∨ c = '.' ∧ PercentRun text := by
  constructor
  · rintro ⟨digits, all, part⟩
    rcases List.infix_concat_iff.mp part with last | before
    · obtain ⟨start, same, behind⟩ := (List.suffix_concat_iff.mp last).resolve_left (by simp)
      obtain ⟨rfl, rfl⟩ := List.append_singleton_inj.mp same
      exact .inr ⟨rfl, digits, all, behind⟩
    · exact .inl ⟨digits, all, before⟩
  · rintro (⟨digits, all, part⟩ | ⟨rfl, digits, all, part⟩)
    · exact ⟨digits, all, List.infix_concat_iff.mpr (.inr part)⟩
    · exact ⟨digits, all, (List.suffix_concat_iff.mpr (.inr ⟨_, rfl, part⟩)).isInfix⟩

/-- A character inside a numeral lengthens the current one. -/
theorem currentNumeral_concat {text : List Char} {c : Char} (inside : endsNumeral c = false) :
    currentNumeral (text ++ [c]) = c :: currentNumeral text := by
  simp [currentNumeral, inside]

/-- A character that ends numerals leaves none. -/
theorem currentNumeral_concat_of_endsNumeral {text : List Char} {c : Char}
    (outside : endsNumeral c = true) : currentNumeral (text ++ [c]) = [] := by
  simp [currentNumeral, outside]

/-- A digit ends no numeral. -/
theorem endsNumeral_of_isDigit {c : Char} (digit : c.isDigit = true) : endsNumeral c = false := by
  cases ends : endsNumeral c with
  | false => rfl
  | true =>
    simp only [endsNumeral, isOperator, Bool.or_eq_true, beq_iff_eq] at ends
    rcases ends with ((((((rfl | rfl) | rfl) | rfl) | rfl) | rfl) | rfl) <;> simp at digit

/-- A digit leaves the numeral pointed or not. -/
theorem pointed_concat_digit {text : List Char} {c : Char} (digit : c.isDigit = true) :
    Pointed (text ++ [c]) ↔ Pointed text := by
  have other : c ≠ '.' := ne_of_isDigit digit rfl
  have noPercent : c ≠ '%' := ne_of_isDigit digit rfl
  simp [Pointed, currentNumeral_concat (endsNumeral_of_isDigit digit), percentRun_concat, digit,
    other.symm, noPercent]

/-- A point makes the numeral pointed. -/
theorem pointed_concat_point (text : List Char) : Pointed (text ++ ['.']) := by
  simp [Pointed, currentNumeral_concat (show endsNumeral '.' = false from rfl)]

/-- A percent sign makes the numeral pointed. -/
theorem pointed_concat_percent (text : List Char) : Pointed (text ++ ['%']) :=
  .inr (percentRun_concat.mpr (.inl rfl))

/-- Behind an operator or a parenthesis no numeral is begun. -/
theorem not_pointed_concat {text : List Char} {c : Char} (outside : endsNumeral c = true)
    (noPercent : c ≠ '%') : ¬ Pointed (text ++ [c]) := by
  rintro (point | run)
  · simp [currentNumeral_concat_of_endsNumeral outside] at point
  · rcases percentRun_concat.mp run with rfl | ⟨digit, -⟩
    · exact noPercent rfl
    · simp [endsNumeral_of_isDigit digit] at outside

end PocketCalc
