import PocketCalc.Proofs.Expression.Parsing

/-! # Surplus values and missing operands

Whether a token may stand where it does depends on the token before it alone: a value must not begin
right behind a value, and a binary operation, a closing parenthesis or the end must not come where
no value ends. This file counts the places that break these two rules. Postfix order and the
rebuilding of the tree look at neither; together they only see to it that the two counts are equal.

* **`surplus`**, **`missing`** — how often each of the two rules is broken.
* **`missing_eq_surplus`** — what is parsed lacks as many operands as it has values too many.
* **`Derives.surplusFrom_append`** — a derivation has no surplus value. -/

namespace PocketCalc

/-! ## The two rules -/

namespace Token

/-- A value ends with the token: a number, or a group that it closes. -/
@[simp] def endsValue : Token → Bool
  | number _ | closing => true
  | _ => false

/-- A value begins with the token: a number, a group that it opens, or a negation. A minus sign of
the text is not among them, because behind a value it subtracts. -/
@[simp] def beginsValue : Token → Bool
  | number _ | opening | negate => true
  | _ => false

/-- The token must have a value before it. The minus sign need not, because it may negate. -/
@[simp] def needsValue : Token → Bool
  | closing => true
  | operation joining => joining != .subtract
  | _ => false

end Token

/-- The number of values that begin right behind a value, given whether a value ends before the
tokens. -/
def surplusFrom (afterValue : Bool) : List Token → Nat
  | [] => 0
  | token :: rest => (afterValue && token.beginsValue).toNat + surplusFrom token.endsValue rest

/-- The number of places where a value should have ended and has not, the end of the tokens being
such a place, given whether a value ends before the tokens. -/
def missingFrom (afterValue : Bool) : List Token → Nat
  | [] => (!afterValue).toNat
  | token :: rest => (!afterValue && token.needsValue).toNat + missingFrom token.endsValue rest

/-- **Surplus values**: those that begin right behind another value. -/
def surplus (tokens : List Token) : Nat := surplusFrom false tokens

/-- **Missing operands**: places that a value should come before. -/
def missing (tokens : List Token) : Nat := missingFrom false tokens

/-! ## The balance of values

Every number puts a value on the stack of finished trees, and every binary operation takes one off
in all. -/

/-- What a token adds to the stack of values. -/
@[simp] def Token.weight : Token → Int
  | number _ => 1
  | operation _ => -1
  | _ => 0

/-- What tokens add to the stack of values. -/
def balance : List Token → Int
  | [] => 0
  | token :: rest => token.weight + balance rest

/-- Balances add up. -/
@[simp] theorem balance_append (first second : List Token) :
    balance (first ++ second) = balance first + balance second := by
  induction first with
  | nil => simp [balance]
  | cons token rest ih => rw [List.cons_append, balance, balance, ih, Int.add_assoc]

/-- **Postfix order keeps the balance.** Every value that begins behind a value leaves one too many,
every missing operand one too few. -/
theorem balance_of_toPostfixFrom {waiting : List Waiting} {afterValue : Bool}
    {tokens ordered : List Token}
    (written : toPostfixFrom waiting afterValue tokens = .ok ordered) :
    balance ordered + missingFrom afterValue tokens + afterValue.toNat =
      balance (waiting.map Waiting.token) + surplusFrom afterValue tokens + 1 := by
  -- each case compares the two counts of its token with what the token writes and leaves waiting
  fun_induction toPostfixFrom waiting afterValue tokens generalizing ordered with
  | case1 waiting afterValue =>
    obtain ⟨-, rfl⟩ := Waiting.unwind_eq_ok_iff.mp written
    cases afterValue <;> simp [missingFrom, surplusFrom]
  | case2 waiting afterValue value rest ih =>
    obtain ⟨later, found, rfl⟩ := map_append_eq_ok [Token.number value] written
    have next := ih found
    cases afterValue <;> simp [missingFrom, surplusFrom, balance] at next ⊢ <;> omega
  | case3 waiting afterValue rest ih =>
    have next := ih written
    cases afterValue <;> simp [missingFrom, surplusFrom, balance, Waiting.token] at next ⊢ <;> omega
  | case4 => simp at written
  | case5 waiting afterValue rest released below closed ih =>
    obtain ⟨later, found, rfl⟩ := map_append_eq_ok released written
    have next := ih found
    -- the items of the group go from the stack to the output, and the parenthesis weighs nothing
    obtain ⟨items, -, rfl, rfl⟩ := Waiting.close?_eq_some_iff.mp closed
    cases afterValue <;>
      simp [missingFrom, surplusFrom, balance, Waiting.token] at next ⊢ <;> omega
  | case6 waiting afterValue rest ih =>
    have next := ih written
    cases afterValue <;> simp [missingFrom, surplusFrom, balance, Waiting.token] at next ⊢ <;> omega
  | case7 waiting operation rest =>
    rename_i released below ih
    obtain ⟨later, found, rfl⟩ := map_append_eq_ok released written
    have next := ih found
    -- what the operation releases goes from the stack to the output
    have kept : balance released + balance (below.map Waiting.token) =
        balance (waiting.map Waiting.token) := by
      rw [← balance_append, ← List.map_append, List.takeWhile_append_dropWhile]
    simp [missingFrom, surplusFrom, balance, Waiting.token] at next ⊢
    omega
  | case8 waiting afterValue rest noValue ih =>
    -- a minus sign behind no value negates: it neither takes a value off nor needs one before it
    have next := ih written
    simp [missingFrom, surplusFrom, balance, Waiting.token, noValue] at next ⊢
    omega
  | case9 => simp at written

/-- **Rebuilding a tree uses the balance up**: one tree is left of those finished before and those
that the tokens add. -/
theorem balance_of_ofPostfixFrom {finished : List Expression} {ordered : List Token}
    {expression : Expression}
    (rebuilt : Expression.ofPostfixFrom finished ordered = .ok expression) :
    finished.length + balance ordered = 1 := by
  -- the cases in which a tree is finished keep the sum; in all others nothing is rebuilt
  fun_induction Expression.ofPostfixFrom finished ordered with
  | case1 only => simp [balance]
  | case2 => simp at rebuilt
  | case3 finished value rest ih =>
    have next := ih rebuilt
    simp [balance] at next ⊢
    omega
  | case4 rest operand below ih =>
    have next := ih rebuilt
    simpa [balance] using next
  | case5 => simp at rebuilt
  | case6 operation rest right left below ih =>
    have next := ih rebuilt
    simp [balance] at next ⊢
    omega
  | case7 => simp at rebuilt
  | case8 => simp at rebuilt
  | case9 => simp at rebuilt

/-- **What is parsed lacks as many operands as it has values too many.** -/
theorem missing_eq_surplus {tokens ordered : List Token} {expression : Expression}
    (written : toPostfix tokens = .ok ordered)
    (rebuilt : Expression.ofPostfix ordered = .ok expression) :
    missing tokens = surplus tokens := by
  have before := balance_of_toPostfixFrom written
  have after := balance_of_ofPostfixFrom rebuilt
  simp [balance] at before after
  rw [missing, surplus]
  omega

/-! ## Derivations -/

/-- **A derivation has no surplus value**: behind it the count goes on as behind any value. -/
theorem Derives.surplusFrom_append {rank : Rank} {tokens : List Token} {expression : Expression}
    (derivation : Derives rank tokens expression) (rest : List Token) :
    surplusFrom false (tokens ++ rest) = surplusFrom true rest := by
  induction derivation generalizing rest with
  | number value => simp [surplusFrom]
  | negate _ ih => simp [surplusFrom, ih]
  | group _ ih => simp [surplusFrom, ih]
  | ofFactor _ ih => exact ih rest
  | multiplicative _ _ _ ihLeft ihRight => simp [surplusFrom, ihLeft, ihRight]
  | ofTerm _ ih => exact ih rest
  | additive _ _ _ ihLeft ihRight => simp [surplusFrom, ihLeft, ihRight]

/-- An expression of the grammar has no surplus value. -/
theorem IsGrammatical.surplus_eq_zero {tokens : List Token} (grammatical : IsGrammatical tokens) :
    surplus tokens = 0 := by
  obtain ⟨expression, derivation⟩ := grammatical
  have count := derivation.surplusFrom_append []
  rwa [List.append_nil] at count

end PocketCalc
