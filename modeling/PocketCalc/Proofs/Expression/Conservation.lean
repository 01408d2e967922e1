import PocketCalc.Proofs.Expression.Reordering

/-! # Postfix order keeps the tokens

Tokens go from the input to the stack and from the stack to the output, in three different loops. On
the way only two things happen to them: parentheses vanish, and a minus sign that stands behind no
value becomes a negation. Nothing else is lost, doubled or made up, and numbers do not overtake one
another. None of this needs the tokens to be an expression.

* **`marked`** — tokens with negations told from subtractions.
* **`Reordering.count_eq`** — written and waiting together are the marked tokens.
* **`toPostfix_perm`** — a postfix order is a permutation of the marked tokens without
  parentheses. -/

namespace PocketCalc

/-! ## Kinds of tokens -/

namespace Token

/-- A number. -/
@[simp] def isNumber : Token → Bool
  | number _ => true
  | _ => false

/-- A parenthesis of either kind. -/
def isParenthesis : Token → Bool
  | opening | closing => true
  | _ => false

/-- What a token stands for behind a value or elsewhere: a minus sign elsewhere negates. -/
def mark (afterValue : Bool) (token : Token) : Token :=
  if token = .operation .subtract ∧ afterValue = false then .negate else token

/-- Marking leaves everything but minus signs as it is. -/
@[simp] theorem mark_of_ne {token : Token} (other : token ≠ .operation .subtract)
    (afterValue : Bool) : token.mark afterValue = token := by
  simp [mark, other]

/-- Behind a value nothing is marked. -/
@[simp] theorem mark_true (token : Token) : token.mark true = token := by
  simp [mark]

end Token

/-- The marked tokens, given whether a value ends before them. -/
def markedFrom (afterValue : Bool) : List Token → List Token
  | [] => []
  | token :: rest => token.mark afterValue :: markedFrom token.endsValue rest

/-- **Tokens with negations told from subtractions**: a minus sign becomes a negation where it comes
first or where no value ends right before it. -/
def marked (tokens : List Token) : List Token := markedFrom false tokens

/-- The last token is marked by what stands before it. -/
theorem markedFrom_concat (afterValue : Bool) (tokens : List Token) (token : Token) :
    markedFrom afterValue (tokens ++ [token]) =
      markedFrom afterValue tokens ++
        [token.mark (tokens.getLast?.elim afterValue Token.endsValue)] := by
  induction tokens generalizing afterValue with
  | nil => rfl
  | cons first rest ih =>
    rw [List.cons_append, markedFrom, markedFrom, ih, List.cons_append, List.getLast?_cons]
    cases rest.getLast? <;> rfl

/-- One more token is marked if no value ends before it. -/
@[simp] theorem marked_concat (tokens : List Token) (token : Token) :
    marked (tokens ++ [token]) = marked tokens ++ [token.mark (endsInValue tokens)] := by
  rw [marked, markedFrom_concat, endsInValue]
  cases tokens.getLast? <;> rfl

/-! ## What waits -/

namespace Waiting

/-- No number waits. -/
theorem filter_isNumber_map_token (items : List Waiting) :
    (items.map token).filter Token.isNumber = [] := by
  rw [List.filter_eq_nil_iff]
  intro other member
  obtain ⟨item, -, rfl⟩ := List.mem_map.mp member
  cases item <;> simp [token]

/-- What waits above a parenthesis is no parenthesis. -/
theorem isParenthesis_map_token {items : List Waiting} (free : opening ∉ items) :
    ∀ other ∈ items.map token, other.isParenthesis = false := by
  intro other member
  obtain ⟨item, inside, rfl⟩ := List.mem_map.mp member
  cases item with
  | opening => exact absurd inside free
  | negate => rfl
  | operation operation => rfl

/-- An operation releases no parenthesis. -/
theorem opening_notMem_takeWhile (operation : Operation) (items : List Waiting) :
    opening ∉ items.takeWhile (yieldsTo operation) := by
  intro member
  have yields := List.all_eq_true.mp List.all_takeWhile opening member
  simp [yieldsTo] at yields

end Waiting

/-! ## What is kept -/

namespace Reordering

variable {read written : List Token} {waiting : List Waiting}

/-- **Numbers are written in their order.** -/
theorem filter_isNumber (reordering : Reordering read written waiting) :
    written.filter Token.isNumber = read.filter Token.isNumber := by
  induction reordering with
  | start => rfl
  | number value _ ih => simp [ih]
  | opening _ ih => simp [ih]
  | closing _ closed ih =>
    obtain ⟨items, -, -, rfl⟩ := Waiting.close?_eq_some_iff.mp closed
    simp [ih, Waiting.filter_isNumber_map_token]
  | mark _ ih => simp [ih]
  | negate _ _ ih => simp [ih]
  | join operation _ _ ih => simp [ih, Waiting.filter_isNumber_map_token]

/-- **No parenthesis is written.** -/
theorem isParenthesis_eq_false (reordering : Reordering read written waiting) :
    ∀ token ∈ written, token.isParenthesis = false := by
  induction reordering with
  | start => simp
  | number value _ ih => exact List.forall_mem_append.mpr ⟨ih, by simp [Token.isParenthesis]⟩
  | opening _ ih => exact ih
  | closing _ closed ih =>
    obtain ⟨items, free, -, rfl⟩ := Waiting.close?_eq_some_iff.mp closed
    exact List.forall_mem_append.mpr ⟨ih, Waiting.isParenthesis_map_token free⟩
  | mark _ ih => exact ih
  | negate _ _ ih => exact ih
  | @join _ _ waiting operation _ _ ih =>
    have free := Waiting.opening_notMem_takeWhile operation waiting
    exact List.forall_mem_append.mpr ⟨ih, Waiting.isParenthesis_map_token free⟩

/-- **Written and waiting together are the marked tokens**, parentheses apart: a token goes from the
stack to the output, or it is put on the stack or out as it is marked. -/
theorem count_eq (reordering : Reordering read written waiting) {token : Token}
    (other : token.isParenthesis = false) :
    written.count token + (waiting.map Waiting.token).count token = (marked read).count token := by
  have noOpening : Token.opening ≠ token := by rintro rfl; cases other
  have noClosing : Token.closing ≠ token := by rintro rfl; cases other
  induction reordering with
  | start => rfl
  | number value _ ih => simp [← ih]; omega
  | opening _ ih => simpa [Waiting.token, noOpening] using ih
  | closing _ closed ih =>
    obtain ⟨items, -, rfl, rfl⟩ := Waiting.close?_eq_some_iff.mp closed
    simp [← ih, Waiting.token, noOpening, noClosing]
    omega
  | mark _ ih =>
    simp [← ih, Waiting.token, List.count_cons]
    omega
  | negate _ noValue ih =>
    simp [← ih, Waiting.token, List.count_cons, Token.mark, noValue]
    omega
  | @join _ _ waiting operation _ value ih =>
    -- what the operation releases goes from the stack to the output
    have kept : ((waiting.takeWhile (Waiting.yieldsTo operation)).map Waiting.token).count token +
        ((waiting.dropWhile (Waiting.yieldsTo operation)).map Waiting.token).count token =
          (waiting.map Waiting.token).count token := by
      rw [← List.count_append, ← List.map_append, List.takeWhile_append_dropWhile]
    simp [← ih, Waiting.token, List.count_cons, value]
    omega

end Reordering

/-- **A postfix order is a permutation of the marked tokens without parentheses.** It has the same
numbers in the same order, and no parenthesis. -/
theorem toPostfix_perm {tokens ordered : List Token} (found : toPostfix tokens = .ok ordered) :
    (∀ token ∈ ordered, token.isParenthesis = false) ∧
      ordered.filter Token.isNumber = tokens.filter Token.isNumber ∧
      ordered.Perm ((marked tokens).filter fun token => !token.isParenthesis) := by
  obtain ⟨written, waiting, reordering⟩ := (Faultless.of_toPostfix found).exists_reordering
  -- at the end, what waits is written too, and no parenthesis is among it
  have whole := reordering.toPostfix_append []
  rw [List.append_nil, found, toPostfixFrom] at whole
  obtain ⟨last, unwound, rfl⟩ := map_append_eq_ok written whole.symm
  obtain ⟨free, rfl⟩ := Waiting.unwind_eq_ok_iff.mp unwound
  have bare : ∀ token ∈ written ++ waiting.map Waiting.token, token.isParenthesis = false :=
    List.forall_mem_append.mpr
      ⟨reordering.isParenthesis_eq_false, Waiting.isParenthesis_map_token free⟩
  refine ⟨bare, ?_, ?_⟩
  · rw [List.filter_append, Waiting.filter_isNumber_map_token, List.append_nil,
      reordering.filter_isNumber]
  · rw [List.perm_iff_count]
    intro token
    cases parenthesis : token.isParenthesis with
    | true =>
      -- neither side has a parenthesis
      have unwritten : token ∉ written ++ waiting.map Waiting.token := by
        intro member
        rw [bare token member] at parenthesis
        cases parenthesis
      have unmarked : token ∉ (marked tokens).filter fun token => !token.isParenthesis := by
        simp [List.mem_filter, parenthesis]
      rw [List.count_eq_zero.mpr unwritten, List.count_eq_zero.mpr unmarked]
    | false =>
      rw [List.count_append, reordering.count_eq parenthesis,
        List.count_filter (by simp [parenthesis])]

/-- In `(1)2+-3` a number follows a group and a minus sign an operation: no expression, and the
numbers, the sum and the negation are kept all the same. -/
theorem toPostfix_perm_of_adjacent_values :
    let one := Token.number (.ofNat 1)
    let two := Token.number (.ofNat 2)
    let three := Token.number (.ofNat 3)
    let tokens : List Token := [.opening, one, .closing, two, .operation .add,
      .operation .subtract, three]
    let ordered : List Token := [one, two, three, .negate, .operation .add]
    toPostfix tokens = .ok ordered ∧ (∀ token ∈ ordered, token.isParenthesis = false) ∧
      ordered.filter Token.isNumber = tokens.filter Token.isNumber ∧
      ordered.Perm ((marked tokens).filter fun token => !token.isParenthesis) := by
  intro one two three tokens ordered
  have found : toPostfix tokens = .ok ordered := rfl
  exact ⟨found, toPostfix_perm found⟩

end PocketCalc
