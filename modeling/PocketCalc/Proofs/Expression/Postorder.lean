import PocketCalc.Proofs.Expression.Leftmost
import PocketCalc.Proofs.Expression.Operands

/-! # Which tokens are a postorder

Rebuilding a tree is the inverse of writing its postorder: nothing else is rebuilt, and nothing is
lost. The trees on the stack spell the tokens read so far, and their number is the balance of these
tokens. A list that is no postorder is refused for its first token that has no place behind those
before it, or at its end, where one tree must be left.

* **`Offends`**, **`FirstOffence`** — tokens that have no place in a postfix order.
* **`Builds`** — what reading tokens leaves on the stack.
* **`IsOrderly.exists_builds`** — reading tokens of which none offends.
* **`Expression.ofPostfix_eq_iff`** — what is rebuilt, and why anything else is not. -/

namespace PocketCalc

/-! ## Offending tokens -/

/-- **A token that has no place behind the tokens before it**: an operation that finds too few
values, or a parenthesis. Where none of the tokens before it offends, their balance is the number of
values that they leave. -/
inductive Offends (before : List Token) : Token → Prop where
  /-- A negation needs one value. -/
  | negate (few : balance before < 1) : Offends before .negate
  /-- A binary operation needs two. -/
  | operation (operation : Operation) (few : balance before < 2) :
      Offends before (.operation operation)
  /-- No parenthesis belongs to a postfix order. -/
  | opening : Offends before .opening
  /-- Neither kind does. -/
  | closing : Offends before .closing

/-- **Tokens of which none offends.** -/
def IsOrderly (tokens : List Token) : Prop :=
  ∀ before token, before ++ [token] <+: tokens → ¬ Offends before token

/-- **The first token that offends**, with the tokens before it. -/
structure FirstOffence (tokens before : List Token) (token : Token) : Prop where
  /-- The token comes behind those before it. -/
  begins : before ++ [token] <+: tokens
  /-- None of these offends. -/
  orderly : IsOrderly before
  /-- The token does. -/
  offends : Offends before token

/-- One more token is in order if it does not offend. -/
theorem isOrderly_concat_iff {tokens : List Token} {token : Token} :
    IsOrderly (tokens ++ [token]) ↔ IsOrderly tokens ∧ ¬ Offends tokens token :=
  faultless_concat_iff

/-- Either no token offends or one is the first to do so. -/
theorem isOrderly_or_firstOffence (tokens : List Token) :
    IsOrderly tokens ∨ ∃ before token, FirstOffence tokens before token := by
  rcases faultless_or_leftmostFault Offends tokens with orderly | ⟨before, token, first⟩
  · exact .inl orderly
  · exact .inr ⟨before, token, first.begins, first.faultless, first.faulty⟩

/-! ## Reading from the left -/

/-- **What reading tokens leaves on the stack.** -/
structure Builds (read : List Token) (finished : List Expression) : Prop where
  /-- There are as many trees as the tokens have values to spare. -/
  count : (finished.length : Int) = balance read
  /-- The postorders of the trees, from the lowest on, are the tokens. -/
  spelled : finished.reverse.flatMap Expression.postorder = read
  /-- What follows is read above these trees. -/
  reads : ∀ rest, Expression.ofPostfix (read ++ rest) = Expression.ofPostfixFrom finished rest

namespace Builds

variable {read : List Token} {finished : List Expression}

/-- Nothing is built before the first token. -/
theorem nil : Builds [] [] where
  count := rfl
  spelled := rfl
  reads := fun _ => rfl

/-- **One more token that does not offend** finds its operands on top of the stack and leaves one
tree in their place. -/
theorem concat (builds : Builds read finished) {token : Token} (fits : ¬ Offends read token) :
    ∃ next, Builds (read ++ [token]) next := by
  have reads (rest : List Token) : Expression.ofPostfix (read ++ [token] ++ rest) =
      Expression.ofPostfixFrom finished (token :: rest) := by
    rw [List.append_assoc, List.singleton_append, builds.reads]
  have count := builds.count
  have spelled := builds.spelled
  cases token with
  | number value =>
    refine ⟨.number value :: finished, ?_, ?_, reads⟩
    · simp [balance, ← count]
    · simp [spelled, Expression.postorder]
  | negate =>
    have enough : ¬ balance read < 1 := fun few => fits (.negate few)
    cases finished with
    | nil => simp [← count] at enough
    | cons operand below =>
      refine ⟨.negate operand :: below, ?_, ?_, reads⟩
      · simpa [balance] using count
      · simp [← spelled, Expression.postorder]
  | operation operation =>
    have enough : ¬ balance read < 2 := fun few => fits (.operation operation few)
    rcases finished with _ | ⟨right, _ | ⟨left, below⟩⟩
    · simp [← count] at enough
    · simp [← count] at enough
    · refine ⟨.apply operation left right :: below, ?_, ?_, reads⟩
      · simp only [List.length_cons, balance_append, balance, Token.weight] at count ⊢
        omega
      · simp [← spelled, Expression.postorder]
  | opening => exact absurd .opening fits
  | closing => exact absurd .closing fits

/-- **A token that offends is refused**, for its operands if it is an operation. -/
theorem refuses (builds : Builds read finished) {token : Token} (offends : Offends read token)
    (rest : List Token) :
    Expression.ofPostfix (read ++ [token] ++ rest) = .error
      (if token = .opening ∨ token = .closing then .notOneValue else .missingOperand) := by
  have count := builds.count
  rw [List.append_assoc, List.singleton_append, builds.reads]
  cases offends with
  | negate few =>
    cases finished with
    | nil => rfl
    | cons operand below =>
      simp only [← count, List.length_cons] at few
      omega
  | operation operation few =>
    match finished with
    | [] | [_] => rfl
    | right :: left :: below =>
      simp only [← count, List.length_cons] at few
      omega
  | opening => rfl
  | closing => rfl

end Builds

/-- **Tokens of which none offends are read to their end**, by induction on the tokens from the
right. -/
theorem IsOrderly.exists_builds {tokens : List Token} (orderly : IsOrderly tokens) :
    ∃ finished, Builds tokens finished := by
  induction tokens using List.reverseRecOn with
  | nil => exact ⟨[], .nil⟩
  | append_singleton tokens last ih =>
    obtain ⟨before, fits⟩ := isOrderly_concat_iff.mp orderly
    obtain ⟨finished, builds⟩ := ih before
    exact builds.concat fits

/-! ## Verdicts -/

/-- The first token that offends gives the verdict. -/
theorem FirstOffence.ofPostfix_eq {tokens before : List Token} {token : Token}
    (first : FirstOffence tokens before token) : Expression.ofPostfix tokens = .error
      (if token = .opening ∨ token = .closing then .notOneValue else .missingOperand) := by
  obtain ⟨rest, rfl⟩ := first.begins
  obtain ⟨finished, builds⟩ := first.orderly.exists_builds
  exact builds.refuses first.offends rest

namespace Expression

/-- Where no token offends, the number of values left gives the verdict. -/
theorem ofPostfix_of_isOrderly {tokens : List Token} (orderly : IsOrderly tokens) :
    (balance tokens = 1 ∧ ∃ expression, ofPostfix tokens = .ok expression ∧
        tokens = expression.postorder) ∨
      (balance tokens ≠ 1 ∧ ofPostfix tokens = .error .notOneValue) := by
  obtain ⟨finished, count, spelled, reads⟩ := orderly.exists_builds
  have whole := reads []
  rw [List.append_nil] at whole
  match finished with
  | [expression] =>
    refine .inl ⟨count.symm, expression, whole, ?_⟩
    simpa using spelled.symm
  | [] => exact .inr ⟨by simp [← count], whole⟩
  | _ :: _ :: below => exact .inr ⟨by simp [← count]; omega, whole⟩

/-- **Nothing but a postorder is rebuilt**, and it gives its own tree. -/
theorem ofPostfix_eq_ok_iff {tokens : List Token} {expression : Expression} :
    ofPostfix tokens = .ok expression ↔ tokens = expression.postorder := by
  constructor
  · intro rebuilt
    rcases isOrderly_or_firstOffence tokens with orderly | ⟨before, token, first⟩
    · rcases ofPostfix_of_isOrderly orderly with ⟨-, only, found, spelled⟩ | ⟨-, refused⟩
      · obtain rfl : only = expression := Except.ok.inj (found.symm.trans rebuilt)
        exact spelled
      · rw [refused] at rebuilt
        cases rebuilt
    · rw [first.ofPostfix_eq] at rebuilt
      cases rebuilt
  · rintro rfl
    exact ofPostfix_postorder expression

/-- **Why tokens are refused.** The first token that offends is to blame, or else the number of
values that are left. -/
theorem ofPostfix_eq_error_iff {tokens : List Token} {fault : SyntaxError} :
    ofPostfix tokens = .error fault ↔
      (∃ before token, FirstOffence tokens before token ∧
        fault = if token = .opening ∨ token = .closing then .notOneValue else .missingOperand) ∨
      (IsOrderly tokens ∧ balance tokens ≠ 1 ∧ fault = .notOneValue) := by
  constructor
  · intro refused
    rcases isOrderly_or_firstOffence tokens with orderly | ⟨before, token, first⟩
    · rcases ofPostfix_of_isOrderly orderly with ⟨-, only, found, -⟩ | ⟨several, found⟩
      · rw [found] at refused
        cases refused
      · exact .inr ⟨orderly, several, Except.error.inj (refused.symm.trans found)⟩
    · exact .inl ⟨before, token, first, Except.error.inj (refused.symm.trans first.ofPostfix_eq)⟩
  · rintro (⟨before, token, first, rfl⟩ | ⟨orderly, several, rfl⟩)
    · exact first.ofPostfix_eq
    · exact (ofPostfix_of_isOrderly orderly).elim (fun one => absurd one.1 several) And.right

/-- **Rebuilding a tree is the inverse of writing its postorder.** A list of tokens that is no
postorder is refused: for a missing operand if the first token that offends is an operation, and as
not one value if it is a parenthesis, or if no token offends and the values left are none or
several. -/
theorem ofPostfix_eq_iff (tokens : List Token) :
    (∀ expression, ofPostfix tokens = .ok expression ↔ tokens = expression.postorder) ∧
      ∀ fault, ofPostfix tokens = .error fault ↔
        (fault = .missingOperand ∧ ∃ before token, FirstOffence tokens before token ∧
          (token = .negate ∨ ∃ operation, token = .operation operation)) ∨
        (fault = .notOneValue ∧ ((∃ before token, FirstOffence tokens before token ∧
            (token = .opening ∨ token = .closing)) ∨
          (IsOrderly tokens ∧ balance tokens ≠ 1))) := by
  refine ⟨fun _ => ofPostfix_eq_ok_iff, fun fault => ofPostfix_eq_error_iff.trans ?_⟩
  constructor
  · rintro (⟨before, token, first, rfl⟩ | ⟨orderly, several, rfl⟩)
    · -- what offends is an operation or a parenthesis
      cases first.offends with
      | negate few => exact .inl ⟨rfl, before, _, first, .inl rfl⟩
      | operation operation few => exact .inl ⟨rfl, before, _, first, .inr ⟨operation, rfl⟩⟩
      | opening => exact .inr ⟨rfl, .inl ⟨before, _, first, .inl rfl⟩⟩
      | closing => exact .inr ⟨rfl, .inl ⟨before, _, first, .inr rfl⟩⟩
    · exact .inr ⟨rfl, .inr ⟨orderly, several⟩⟩
  · rintro (⟨rfl, before, token, first, operation⟩ | ⟨rfl, ⟨before, token, first, parenthesis⟩ |
      ⟨orderly, several⟩⟩)
    · refine .inl ⟨before, token, first, ?_⟩
      rcases operation with rfl | ⟨operation, rfl⟩ <;> rfl
    · exact .inl ⟨before, token, first, (if_pos parenthesis).symm⟩
    · exact .inr ⟨orderly, several, rfl⟩

end Expression

end PocketCalc
