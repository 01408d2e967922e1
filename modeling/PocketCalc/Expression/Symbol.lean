/-! # The characters of an expression

A calculator's keys send digits, the point, the percent sign, parentheses and the four operators;
three keys are labelled with typographic glyphs that stand for an ASCII operator. This file fixes
these classes, the glyph table and the count of parentheses that are still open.

* **`plain_plain`** — replacing glyphs twice is replacing them once.
* **`openParens_append`** — open parentheses add up over concatenation. -/

namespace PocketCalc

/-- One of the four operators; the minus sign also serves as negation. -/
def isOperator (c : Char) : Bool :=
  c == '+' || c == '-' || c == '*' || c == '/'

/-- The four operators. -/
theorem isOperator_iff {c : Char} :
    isOperator c = true ↔ c = '+' ∨ c = '-' ∨ c = '*' ∨ c = '/' := by
  simp [isOperator, or_assoc]

/-- A digit is no other kind of character. -/
theorem ne_of_isDigit {c other : Char} (digit : c.isDigit = true)
    (sign : other.isDigit = false) : c ≠ other := by
  rintro rfl
  rw [digit] at sign
  exact Bool.noConfusion sign

/-- The character that a key's glyph stands for; every other character stands for itself. -/
def plain (c : Char) : Char :=
  if c = '÷' then '/' else if c = '×' then '*' else if c = '−' then '-' else c

/-- What holds of every character with itself, and of every glyph with its operator, holds of every
character with the one that it stands for. -/
theorem plain_induction {motive : Char → Char → Prop} (same : ∀ c, motive c c)
    (quotient : motive '÷' '/') (product : motive '×' '*') (difference : motive '−' '-')
    (c : Char) : motive c (plain c) := by
  unfold plain
  split
  · rename_i glyph
    rwa [glyph]
  · split
    · rename_i glyph
      rwa [glyph]
    · split
      · rename_i glyph
        rwa [glyph]
      · exact same c

/-- A plain character is no glyph any more. -/
@[simp] theorem plain_plain (c : Char) : plain (plain c) = plain c := by
  unfold plain
  split
  · decide
  · split
    · decide
    · split
      · decide
      · simp_all

/-- Replace every glyph of a text. -/
def plainText (text : List Char) : List Char :=
  text.map plain

/-- Replacing glyphs keeps the number of characters. -/
@[simp] theorem length_plainText (text : List Char) : (plainText text).length = text.length := by
  simp [plainText]

/-- **Parentheses still open**: opening ones less closing ones, negative when too many close. -/
def openParens (text : List Char) : Int :=
  (text.count '(' : Int) - (text.count ')' : Int)

/-- No parenthesis is open in the empty text. -/
@[simp] theorem openParens_nil : openParens [] = 0 := rfl

/-- The open parentheses of two texts add up. -/
@[simp] theorem openParens_append (first second : List Char) :
    openParens (first ++ second) = openParens first + openParens second := by
  simp [openParens]
  omega

/-- What the first character contributes. -/
theorem openParens_cons (c : Char) (text : List Char) :
    openParens (c :: text) =
      (if c = '(' then 1 else if c = ')' then -1 else 0) + openParens text := by
  by_cases opening : c = '('
  · subst opening; simp [openParens]; omega
  · by_cases closing : c = ')'
    · subst closing; simp [openParens]; omega
    · simp [openParens, opening, closing]

/-- What has no parentheses leaves none open. -/
theorem openParens_of_forall_ne {text : List Char} (without : ∀ c ∈ text, c ≠ '(' ∧ c ≠ ')') :
    openParens text = 0 := by
  have noOpening : '(' ∉ text := fun member => (without _ member).1 rfl
  have noClosing : ')' ∉ text := fun member => (without _ member).2 rfl
  rw [openParens, List.count_eq_zero.mpr noOpening, List.count_eq_zero.mpr noClosing]
  rfl

end PocketCalc
