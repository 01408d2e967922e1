import PocketCalc.Proofs.Expression.Leftmost
import PocketCalc.Proofs.Expression.Reading

/-! # Tokens on their way into postfix order

While tokens are put into postfix order, well formed or not, each of those read is written or waits
on the stack. This file says once what a token does to the two; whatever holds of all lists of
tokens follows by induction on the tokens read. The first thing to follow is which lists are refused
and for what: the stack holds the open groups whatever operations wait between them, and whether an
operation finds a value depends on the token right before it alone.

* **`Reordering`** — what is written and what waits behind the tokens read so far.
* **`Reordering.toPostfix_append`** — what follows is read with that stack.
* **`Misplaced`** — a token that is refused behind the tokens before it.
* **`Faultless.toPostfix_cases`**, **`LeftmostFault.toPostfix_eq`** — the two kinds of lists.
* **`toPostfix_outcome`** — the verdict on any list of tokens. -/

namespace PocketCalc

/-! ## Behind tokens -/

/-- A value ends with the last of the tokens. -/
def endsInValue (tokens : List Token) : Bool := tokens.getLast?.any Token.endsValue

/-- No value ends with no tokens. -/
@[simp] theorem endsInValue_nil : endsInValue [] = false := rfl

/-- Only the last token matters. -/
@[simp] theorem endsInValue_concat (tokens : List Token) (token : Token) :
    endsInValue (tokens ++ [token]) = token.endsValue := by
  simp [endsInValue]

/-- How many groups are open behind a token. A closing parenthesis closes one, if there is one. -/
@[simp] def Token.openBehind (depth : Nat) : Token → Nat
  | opening => depth + 1
  | closing => depth - 1
  | _ => depth

/-- **The groups that are still open behind tokens.** -/
def stillOpen (tokens : List Token) : Nat := tokens.foldl Token.openBehind 0

/-- None is open behind no tokens. -/
@[simp] theorem stillOpen_nil : stillOpen [] = 0 := rfl

/-- One more token opens a group, closes one or leaves them. -/
@[simp] theorem stillOpen_concat (tokens : List Token) (token : Token) :
    stillOpen (tokens ++ [token]) = token.openBehind (stillOpen tokens) := by
  simp [stillOpen]

/-! ## One token after the other -/

/-- **What is written and what waits behind the tokens read so far.** A number is written, a
parenthesis closes its group, and an operation takes off the stack what binds at least as tightly
before it waits itself. -/
inductive Reordering : List Token → List Token → List Waiting → Prop where
  /-- Nothing is read yet. -/
  | start : Reordering [] [] []
  /-- A number is written at once. -/
  | number {read written : List Token} {waiting : List Waiting} (value : Binary64)
      (before : Reordering read written waiting) :
      Reordering (read ++ [.number value]) (written ++ [.number value]) waiting
  /-- An opening parenthesis waits. -/
  | opening {read written : List Token} {waiting : List Waiting}
      (before : Reordering read written waiting) :
      Reordering (read ++ [.opening]) written (.opening :: waiting)
  /-- A closing parenthesis releases its group. -/
  | closing {read written released : List Token} {waiting below : List Waiting}
      (before : Reordering read written waiting)
      (closed : Waiting.close? waiting = some (released, below)) :
      Reordering (read ++ [.closing]) (written ++ released) below
  /-- A marked negation waits. -/
  | mark {read written : List Token} {waiting : List Waiting}
      (before : Reordering read written waiting) :
      Reordering (read ++ [.negate]) written (.negate :: waiting)
  /-- A minus sign behind no value waits as a negation. -/
  | negate {read written : List Token} {waiting : List Waiting}
      (before : Reordering read written waiting) (noValue : endsInValue read = false) :
      Reordering (read ++ [.operation .subtract]) written (.negate :: waiting)
  /-- An operation behind a value waits in place of what it releases. -/
  | join {read written : List Token} {waiting : List Waiting} (operation : Operation)
      (before : Reordering read written waiting) (value : endsInValue read = true) :
      Reordering (read ++ [.operation operation])
        (written ++ (waiting.takeWhile (Waiting.yieldsTo operation)).map Waiting.token)
        (.operation operation :: waiting.dropWhile (Waiting.yieldsTo operation))

namespace Reordering

variable {read written : List Token} {waiting : List Waiting}

/-- **What follows is read with the stack that waits**, behind what is written. -/
theorem toPostfix_append (reordering : Reordering read written waiting) (rest : List Token) :
    toPostfix (read ++ rest) =
      (toPostfixFrom waiting (endsInValue read) rest).map (written ++ ·) := by
  induction reordering generalizing rest with
  | start => rw [map_nil_append]; rfl
  | number value _ ih =>
    rw [List.append_assoc, List.singleton_append, ih, toPostfixFrom, endsInValue_concat]
    exact map_append_map_append _ _ [Token.number value]
  | opening _ ih =>
    rw [List.append_assoc, List.singleton_append, ih, toPostfixFrom, endsInValue_concat]
    rfl
  | closing _ closed ih =>
    rw [List.append_assoc, List.singleton_append, ih, toPostfixFrom, closed, endsInValue_concat]
    exact map_append_map_append _ _ _
  | mark _ ih =>
    rw [List.append_assoc, List.singleton_append, ih, toPostfixFrom, endsInValue_concat]
    rfl
  | negate _ noValue ih =>
    rw [List.append_assoc, List.singleton_append, ih, toPostfixFrom, noValue,
      if_neg Bool.false_ne_true, if_pos rfl, endsInValue_concat]
    rfl
  | join operation _ value ih =>
    rw [List.append_assoc, List.singleton_append, ih, toPostfixFrom, value, if_pos rfl,
      endsInValue_concat]
    exact map_append_map_append _ _ _

/-- **The parentheses that wait are the open groups**, whatever operations wait between them. -/
theorem count_opening (reordering : Reordering read written waiting) :
    waiting.count .opening = stillOpen read := by
  induction reordering with
  | start => rfl
  | number value _ ih => simpa using ih
  | opening _ ih => simpa using ih
  | closing _ closed ih =>
    obtain ⟨items, free, rfl, -⟩ := Waiting.close?_eq_some_iff.mp closed
    rw [List.count_append, List.count_eq_zero.mpr free, List.count_cons_self, Nat.zero_add] at ih
    simp [← ih]
  | mark _ ih => simpa using ih
  | negate _ _ ih => simpa using ih
  | join operation _ _ ih => simpa [Waiting.count_opening_dropWhile] using ih

/-- Every closing parenthesis has closed a group. -/
theorem count_closing (reordering : Reordering read written waiting) :
    stillOpen read + read.count .closing = read.count .opening := by
  induction reordering with
  | start => rfl
  | number value _ ih => simpa using ih
  | opening _ ih => simp; omega
  | closing before closed ih =>
    -- the parenthesis that it takes off the stack was open
    obtain ⟨items, -, rfl, -⟩ := Waiting.close?_eq_some_iff.mp closed
    have opened := before.count_opening
    rw [List.count_append, List.count_cons_self] at opened
    simp
    omega
  | mark _ ih => simpa using ih
  | negate _ _ ih => simpa using ih
  | join operation _ _ ih => simpa using ih

end Reordering

/-! ## Verdicts -/

/-- **A token that is refused behind the tokens before it**: a closing parenthesis where no group is
open, or a binary operation where no value ends. A minus sign is never refused, because it may
negate. -/
inductive Misplaced (before : List Token) : Token → Prop where
  /-- A closing parenthesis needs an open group. -/
  | closing (none : stillOpen before = 0) : Misplaced before .closing
  /-- An operation other than subtraction needs a value right before it. -/
  | operation (operation : Operation) (binary : operation ≠ .subtract)
      (noValue : endsInValue before = false) : Misplaced before (.operation operation)

namespace Waiting

/-- Without a parenthesis on the stack, there is none to close. -/
theorem close?_eq_none {stack : List Waiting} (free : opening ∉ stack) : close? stack = none := by
  cases closed : close? stack with
  | none => rfl
  | some outcome =>
    obtain ⟨items, -, rfl, -⟩ := close?_eq_some_iff.mp closed
    simp at free

/-- With one, the innermost is closed. -/
theorem exists_close?_eq_some {stack : List Waiting} (held : opening ∈ stack) :
    ∃ released below, close? stack = some (released, below) := by
  obtain ⟨items, below, same, free⟩ := List.eq_append_cons_of_mem held
  exact ⟨items.map token, below, close?_eq_some_iff.mpr ⟨items, free, same, rfl⟩⟩

/-- The end of an expression objects to a parenthesis that waits, and to nothing else. -/
theorem unwind_of_mem {stack : List Waiting} (held : opening ∈ stack) :
    unwind stack = .error .unclosed := by
  induction stack with
  | nil => simp at held
  | cons item below ih =>
    by_cases parenthesis : item = opening
    · rw [parenthesis, unwind]
    · have deeper : opening ∈ below := List.mem_of_ne_of_mem (Ne.symm parenthesis) held
      rw [unwind.eq_3 item below (fun same => parenthesis same), ih deeper]
      rfl

end Waiting

namespace Reordering

variable {read written : List Token} {waiting : List Waiting} {token : Token}

/-- **A token that has its place** is written or put on the stack. -/
theorem extend (reordering : Reordering read written waiting) (fits : ¬ Misplaced read token) :
    ∃ more next, Reordering (read ++ [token]) more next := by
  cases token with
  | number value => exact ⟨_, _, reordering.number value⟩
  | opening => exact ⟨_, _, reordering.opening⟩
  | closing =>
    have opened : stillOpen read ≠ 0 := fun none => fits (.closing none)
    rw [← reordering.count_opening, ne_eq, List.count_eq_zero, not_not] at opened
    obtain ⟨released, below, closed⟩ := Waiting.exists_close?_eq_some opened
    exact ⟨_, _, reordering.closing closed⟩
  | negate => exact ⟨_, _, reordering.mark⟩
  | operation operation =>
    cases value : endsInValue read with
    | true => exact ⟨_, _, reordering.join operation value⟩
    | false =>
      -- behind no value only the minus sign has a place
      obtain rfl : operation = .subtract := by
        by_contra binary
        exact fits (.operation operation binary value)
      exact ⟨_, _, reordering.negate value⟩

/-- **A token out of place is refused**, whatever follows it. -/
theorem refuses (reordering : Reordering read written waiting) (misplaced : Misplaced read token)
    (rest : List Token) : toPostfix (read ++ [token] ++ rest) =
      .error (if token = .closing then .unopened else .missingOperand) := by
  rw [List.append_assoc, List.singleton_append, reordering.toPostfix_append]
  cases misplaced with
  | closing none =>
    rw [← reordering.count_opening, List.count_eq_zero] at none
    rw [toPostfixFrom, Waiting.close?_eq_none none]
    rfl
  | operation operation binary noValue =>
    rw [noValue, toPostfixFrom, if_neg Bool.false_ne_true, if_neg binary]
    rfl

end Reordering

/-- **Tokens that all have their place are read to the end**, by induction on the tokens from the
right. -/
theorem Faultless.exists_reordering {tokens : List Token} (faultless : Faultless Misplaced tokens) :
    ∃ written waiting, Reordering tokens written waiting := by
  induction tokens using List.reverseRecOn with
  | nil => exact ⟨[], [], .start⟩
  | append_singleton tokens last ih =>
    obtain ⟨before, fits⟩ := faultless_concat_iff.mp faultless
    obtain ⟨written, waiting, reordering⟩ := ih before
    exact reordering.extend fits

/-- The leftmost token out of place gives the verdict. -/
theorem LeftmostFault.toPostfix_eq {tokens before : List Token} {token : Token}
    (first : LeftmostFault Misplaced tokens before token) :
    toPostfix tokens = .error (if token = .closing then .unopened else .missingOperand) := by
  obtain ⟨rest, rfl⟩ := first.begins
  obtain ⟨written, waiting, reordering⟩ := first.faultless.exists_reordering
  exact reordering.refuses first.faulty rest

/-- Where no token is out of place, the parentheses still open at the end give the verdict. -/
theorem Faultless.toPostfix_cases {tokens : List Token} (faultless : Faultless Misplaced tokens) :
    (tokens.count .opening ≤ tokens.count .closing ∧ ∃ ordered, toPostfix tokens = .ok ordered) ∨
      (tokens.count .closing < tokens.count .opening ∧ toPostfix tokens = .error .unclosed) := by
  obtain ⟨written, waiting, reordering⟩ := faultless.exists_reordering
  have whole := reordering.toPostfix_append []
  rw [List.append_nil, toPostfixFrom] at whole
  have opened := reordering.count_opening
  have level := reordering.count_closing
  by_cases held : .opening ∈ waiting
  · have positive : 0 < waiting.count .opening := List.count_pos_iff.mpr held
    rw [Waiting.unwind_of_mem held] at whole
    exact .inr ⟨by omega, whole⟩
  · have none : waiting.count .opening = 0 := List.count_eq_zero.mpr held
    rw [Waiting.unwind_eq_ok_iff.mpr ⟨held, rfl⟩] at whole
    exact .inl ⟨by omega, _, whole⟩

/-- **Why tokens have no postfix order.** The leftmost token out of place is to blame, or else the
groups that are not closed. -/
theorem toPostfix_eq_error_iff {tokens : List Token} {fault : SyntaxError} :
    toPostfix tokens = .error fault ↔
      (∃ before token, LeftmostFault Misplaced tokens before token ∧
        fault = if token = .closing then .unopened else .missingOperand) ∨
      (Faultless Misplaced tokens ∧ tokens.count .closing < tokens.count .opening ∧
        fault = .unclosed) := by
  constructor
  · intro refused
    rcases faultless_or_leftmostFault Misplaced tokens with faultless | ⟨before, token, first⟩
    · rcases faultless.toPostfix_cases with ⟨-, ordered, found⟩ | ⟨more, found⟩
      · rw [found] at refused
        cases refused
      · exact .inr ⟨faultless, more, Except.error.inj (refused.symm.trans found)⟩
    · exact .inl ⟨before, token, first, Except.error.inj (refused.symm.trans first.toPostfix_eq)⟩
  · rintro (⟨before, token, first, rfl⟩ | ⟨faultless, more, rfl⟩)
    · exact first.toPostfix_eq
    · exact faultless.toPostfix_cases.elim (fun level => absurd level.1 (by omega)) And.right

/-- Nothing is out of place in tokens that have a postfix order. -/
theorem Faultless.of_toPostfix {tokens ordered : List Token}
    (found : toPostfix tokens = .ok ordered) : Faultless Misplaced tokens := by
  rcases faultless_or_leftmostFault Misplaced tokens with faultless | ⟨before, token, first⟩
  · exact faultless
  · rw [first.toPostfix_eq] at found
    cases found

/-- **The verdict on any list of tokens.** The leftmost token out of place is refused as a closing
parenthesis without an opening one or as an operation that lacks an operand. Where there is none,
groups that are not closed are refused, and anything else has a postfix order. -/
theorem toPostfix_outcome (tokens : List Token) :
    (∀ fault, toPostfix tokens = .error fault ↔
      (fault = .unopened ∧ ∃ before, LeftmostFault Misplaced tokens before .closing) ∨
      (fault = .missingOperand ∧
        ∃ before operation, LeftmostFault Misplaced tokens before (.operation operation)) ∨
      (fault = .unclosed ∧ Faultless Misplaced tokens ∧
        tokens.count .closing < tokens.count .opening)) ∧
    ((∃ ordered, toPostfix tokens = .ok ordered) ↔
      Faultless Misplaced tokens ∧ tokens.count .opening ≤ tokens.count .closing) := by
  refine ⟨fun fault => toPostfix_eq_error_iff.trans ?_, ?_⟩
  · constructor
    · rintro (⟨before, token, first, rfl⟩ | ⟨faultless, more, rfl⟩)
      · -- what is out of place is a closing parenthesis or an operation
        cases first.faulty with
        | closing none => exact .inl ⟨rfl, before, first⟩
        | operation operation binary noValue =>
          exact .inr (.inl ⟨rfl, before, operation, first⟩)
      · exact .inr (.inr ⟨rfl, faultless, more⟩)
    · rintro (⟨rfl, before, first⟩ | ⟨rfl, before, operation, first⟩ | ⟨rfl, faultless, more⟩)
      · exact .inl ⟨before, _, first, rfl⟩
      · exact .inl ⟨before, _, first, rfl⟩
      · exact .inr ⟨faultless, more, rfl⟩
  · constructor
    · rintro ⟨ordered, found⟩
      have faultless := Faultless.of_toPostfix found
      rcases faultless.toPostfix_cases with ⟨level, -⟩ | ⟨-, refused⟩
      · exact ⟨faultless, level⟩
      · rw [refused] at found
        cases found
    · rintro ⟨faultless, level⟩
      exact faultless.toPostfix_cases.elim And.right (fun more => absurd more.1 (by omega))

end PocketCalc
