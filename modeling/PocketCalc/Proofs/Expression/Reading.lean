import PocketCalc.Proofs.Expression.Operands

/-! # Reading tokens from the left

Tokens in which no operand is missing can be read one by one: what matters of those read is whether
a value ends there, how many parentheses are open and how many values were too many. When none was,
the tokens are the beginning of an expression, and when in addition a value ends and nothing is
open, they are an expression.

* **`Reading`** — tokens that can be read so, with what matters of them.
* **`Reading.counts`** — their surplus values and missing operands.
* **`Unclosed`** — tokens that closing parentheses turn into an expression.
* **`Reading.isGrammatical`** — an expression is what is read with nothing open and no surplus
  value.
* **`Reading.of_toPostfixFrom`** — what is put into postfix order can be read so.
* **`IsGrammatical.reading`** — every expression can be read so. -/

namespace PocketCalc

/-- **Tokens read from the left, none of them lacking an operand**: whether a value ends there, the
number of open parentheses and the number of surplus values. -/
inductive Reading : Bool → Nat → Nat → List Token → Prop where
  /-- Nothing is read yet. -/
  | start : Reading false 0 0 []
  /-- A number; right behind a value it is one too many. -/
  | number {afterValue : Bool} {depth extra : Nat} {tokens : List Token} (value : Binary64)
      (before : Reading afterValue depth extra tokens) :
      Reading true depth (extra + afterValue.toNat) (tokens ++ [.number value])
  /-- An opening parenthesis; right behind a value its group is one too many. -/
  | opening {afterValue : Bool} {depth extra : Nat} {tokens : List Token}
      (before : Reading afterValue depth extra tokens) :
      Reading false (depth + 1) (extra + afterValue.toNat) (tokens ++ [.opening])
  /-- A closing parenthesis behind a value. -/
  | closing {depth extra : Nat} {tokens : List Token}
      (before : Reading true (depth + 1) extra tokens) :
      Reading true depth extra (tokens ++ [.closing])
  /-- A binary operation behind a value. -/
  | join {depth extra : Nat} {tokens : List Token} (operation : Operation)
      (before : Reading true depth extra tokens) :
      Reading false depth extra (tokens ++ [.operation operation])
  /-- A minus sign behind no value. -/
  | negate {depth extra : Nat} {tokens : List Token}
      (before : Reading false depth extra tokens) :
      Reading false depth extra (tokens ++ [.operation .subtract])

/-- **What is read lacks no operand, and its surplus values are counted.** Whatever follows is
judged by whether a value ends there. -/
theorem Reading.counts {afterValue : Bool} {depth extra : Nat} {tokens : List Token}
    (reading : Reading afterValue depth extra tokens) (rest : List Token) :
    surplusFrom false (tokens ++ rest) = extra + surplusFrom afterValue rest ∧
      missingFrom false (tokens ++ rest) = missingFrom afterValue rest := by
  induction reading generalizing rest with
  | start => simp
  | number value _ ih => simp [ih, surplusFrom, missingFrom, Nat.add_assoc]
  | opening _ ih => simp [ih, surplusFrom, missingFrom, Nat.add_assoc]
  | closing _ ih => simp [ih, surplusFrom, missingFrom]
  | join operation _ ih => simp [ih, surplusFrom, missingFrom]
  | negate _ ih => simp [ih, surplusFrom, missingFrom]

/-! ## Beginnings of expressions -/

/-- An expression is joined to a factor: a product goes to its last term, a sum behind it. -/
theorem IsGrammatical.join {tokens factorTokens : List Token} {factor : Expression}
    (grammatical : IsGrammatical tokens) (operation : Operation)
    (derivation : Derives .factor factorTokens factor) :
    IsGrammatical (tokens ++ .operation operation :: factorTokens) := by
  obtain ⟨expression, sum⟩ := grammatical
  by_cases additive : operation.precedence = 1
  · exact ⟨_, .additive additive sum (.ofFactor derivation)⟩
  · have multiplicative : operation.precedence = 2 := by
      cases operation <;> simp_all [Operation.precedence]
    cases sum with
    | ofTerm term => exact ⟨_, .ofTerm (.multiplicative multiplicative term derivation)⟩
    | additive binds first last =>
      rw [List.append_assoc, List.cons_append]
      exact ⟨_, .additive binds first (.multiplicative multiplicative last derivation)⟩

/-- **Tokens that lack nothing but closing parentheses.** With none to come they are an expression;
else they end in an expression behind an open parenthesis, and any factor in place of the
parenthesis and what is behind it leaves one less to close. -/
def Unclosed : Nat → List Token → Prop
  | 0, tokens => IsGrammatical tokens
  | depth + 1, tokens => ∃ before inside, tokens = before ++ .opening :: inside ∧
      IsGrammatical inside ∧ ∀ factorTokens factor, Derives .factor factorTokens factor →
        Unclosed depth (before ++ factorTokens)

/-- Unclosed tokens are joined to a factor at their end. -/
theorem Unclosed.join {depth : Nat} {tokens factorTokens : List Token} {factor : Expression}
    (unclosed : Unclosed depth tokens) (operation : Operation)
    (derivation : Derives .factor factorTokens factor) :
    Unclosed depth (tokens ++ .operation operation :: factorTokens) := by
  cases depth with
  | zero => exact IsGrammatical.join unclosed operation derivation
  | succ depth =>
    obtain ⟨before, inside, rfl, grammatical, fill⟩ := unclosed
    exact ⟨before, inside ++ .operation operation :: factorTokens, by simp,
      grammatical.join operation derivation, fill⟩

/-- A closing parenthesis turns the innermost group into a factor. -/
theorem Unclosed.close {depth : Nat} {tokens : List Token}
    (unclosed : Unclosed (depth + 1) tokens) :
    Unclosed depth (tokens ++ [.closing]) := by
  obtain ⟨before, inside, rfl, ⟨expression, sum⟩, fill⟩ := unclosed
  rw [List.append_assoc]
  exact fill _ _ (.group sum)

/-- **What is read without a surplus value is the beginning of an expression**: behind a value only
parentheses are to be closed, and elsewhere a factor may follow. Both are proved together, because
each kind of ending arises from the other. -/
theorem Reading.unclosed {afterValue : Bool} {depth extra : Nat} {tokens : List Token}
    (reading : Reading afterValue depth extra tokens) (none : extra = 0) :
    if afterValue then Unclosed depth tokens
    else ∀ factorTokens factor, Derives .factor factorTokens factor →
      Unclosed depth (tokens ++ factorTokens) := by
  induction reading with
  | start =>
    intro factorTokens factor derivation
    exact ⟨factor, derivation.sum_of_factor⟩
  | @number afterValue depth extra tokens value before ih =>
    -- behind a value the number would be one too many, so a factor is due
    obtain ⟨rfl, behind⟩ := Nat.add_eq_zero_iff.mp none
    obtain rfl : afterValue = false := by simpa using behind
    exact ih rfl _ _ (.number value)
  | @opening afterValue depth extra tokens before ih =>
    obtain ⟨rfl, behind⟩ := Nat.add_eq_zero_iff.mp none
    obtain rfl : afterValue = false := by simpa using behind
    -- the factor begins the inside of the new group, and the group is a factor where one was due
    intro factorTokens factor derivation
    exact ⟨tokens, factorTokens, by simp, ⟨factor, derivation.sum_of_factor⟩, ih rfl⟩
  | closing before ih => exact Unclosed.close (ih none)
  | join operation before ih =>
    intro factorTokens factor derivation
    rw [List.append_assoc, List.singleton_append]
    exact Unclosed.join (ih none) operation derivation
  | negate before ih =>
    intro factorTokens factor derivation
    rw [List.append_assoc, List.singleton_append]
    exact ih none _ _ derivation.negate

/-- **What is read with a value at the end, nothing open and no surplus value is an expression.** -/
theorem Reading.isGrammatical {tokens : List Token} (reading : Reading true 0 0 tokens) :
    IsGrammatical tokens :=
  reading.unclosed rfl

/-! ## Reading what is put into postfix order -/

/-- An operation releases no parenthesis. -/
theorem Waiting.count_opening_dropWhile (waiting : List Waiting) (operation : Operation) :
    (waiting.dropWhile (Waiting.yieldsTo operation)).count .opening = waiting.count .opening := by
  induction waiting with
  | nil => rfl
  | cons item rest ih =>
    cases yields : item.yieldsTo operation with
    | false => rw [List.dropWhile_cons_of_neg (by simp [yields])]
    | true =>
      have other : item ≠ .opening := by
        rintro rfl
        simp [Waiting.yieldsTo] at yields
      rw [List.dropWhile_cons_of_pos yields, ih, List.count_cons_of_ne other]

/-- **What is put into postfix order without a missing operand can be read**, the parentheses on the
stack being the open ones. Negations must not be marked yet, as in the tokens of a text. -/
theorem Reading.of_toPostfixFrom {waiting : List Waiting} {afterValue : Bool} {extra : Nat}
    {before tokens ordered : List Token}
    (reading : Reading afterValue (waiting.count .opening) extra before)
    (written : toPostfixFrom waiting afterValue tokens = .ok ordered)
    (complete : missingFrom afterValue tokens = 0) (unmarked : .negate ∉ tokens) :
    Reading true 0 (extra + surplusFrom afterValue tokens) (before ++ tokens) := by
  fun_induction toPostfixFrom waiting afterValue tokens generalizing before extra ordered with
  | case1 waiting afterValue =>
    obtain ⟨free, -⟩ := Waiting.unwind_eq_ok_iff.mp written
    obtain rfl : afterValue = true := by simpa [missingFrom] using complete
    rw [List.count_eq_zero.mpr free] at reading
    simpa [surplusFrom] using reading
  | case2 waiting afterValue value rest ih =>
    obtain ⟨later, found, -⟩ := map_append_eq_ok [Token.number value] written
    have next := ih (reading.number value) found (by simpa [missingFrom] using complete)
      (List.not_mem_of_not_mem_cons unmarked)
    simpa [surplusFrom, Nat.add_assoc] using next
  | case3 waiting afterValue rest ih =>
    -- the parenthesis waits on the stack while its group is open
    have opened : Reading false ((Waiting.opening :: waiting).count .opening)
        (extra + afterValue.toNat) (before ++ [.opening]) := by
      rw [List.count_cons_self]
      exact reading.opening
    have next := ih opened written (by simpa [missingFrom] using complete)
      (List.not_mem_of_not_mem_cons unmarked)
    simpa [surplusFrom, Nat.add_assoc] using next
  | case4 => simp at written
  | case5 waiting afterValue rest released below closed ih =>
    obtain ⟨later, found, -⟩ := map_append_eq_ok released written
    -- a closing parenthesis that lacks no operand stands behind a value
    obtain ⟨rfl, remaining⟩ : afterValue = true ∧ missingFrom true rest = 0 := by
      simpa [missingFrom] using complete
    obtain ⟨items, free, rfl, rfl⟩ := Waiting.close?_eq_some_iff.mp closed
    rw [List.count_append, List.count_eq_zero.mpr free, List.count_cons_self, Nat.zero_add]
      at reading
    have next := ih reading.closing found remaining (List.not_mem_of_not_mem_cons unmarked)
    simpa [surplusFrom] using next
  | case6 => simp at unmarked
  | case7 waiting operation rest =>
    rename_i released below ih
    obtain ⟨later, found, -⟩ := map_append_eq_ok released written
    -- a binary operation here stands behind a value, and what it releases holds no parenthesis
    have joined : Reading false ((Waiting.operation operation :: below).count .opening) extra
        (before ++ [.operation operation]) := by
      rw [List.count_cons_of_ne (by simp), Waiting.count_opening_dropWhile]
      exact reading.join operation
    have next := ih joined found (by simpa [missingFrom] using complete)
      (List.not_mem_of_not_mem_cons unmarked)
    simpa [surplusFrom] using next
  | case8 waiting afterValue rest noValue ih =>
    -- the only operation behind no value is the minus sign that negates
    obtain rfl : afterValue = false := by simpa using noValue
    have negated : Reading false ((Waiting.negate :: waiting).count .opening) extra
        (before ++ [.operation .subtract]) := by
      rw [List.count_cons_of_ne (by simp)]
      exact reading.negate
    have next := ih negated written (by simpa [missingFrom] using complete)
      (List.not_mem_of_not_mem_cons unmarked)
    simpa [surplusFrom] using next
  | case9 => simp at written

/-- **The tokens of a text that have a postfix order and lack no operand are read whole**, with a
value at the end and nothing open. -/
theorem Reading.of_toPostfix {tokens ordered : List Token}
    (written : toPostfix tokens = .ok ordered) (complete : missing tokens = 0)
    (unmarked : .negate ∉ tokens) : Reading true 0 (surplus tokens) tokens := by
  have nothing : Reading false (([] : List Waiting).count .opening) 0 [] := .start
  have reading := nothing.of_toPostfixFrom written complete unmarked
  rwa [Nat.zero_add] at reading

/-- **An expression can be read without a surplus value**, if no negation is marked yet. -/
theorem IsGrammatical.reading {tokens : List Token} (grammatical : IsGrammatical tokens)
    (unmarked : .negate ∉ tokens) : Reading true 0 0 tokens := by
  have single : surplus tokens = 0 := grammatical.surplus_eq_zero
  obtain ⟨expression, derivation⟩ := grammatical
  have written : toPostfix tokens = .ok expression.postorder := derivation.toPostfix_eq
  have equal : missing tokens = surplus tokens :=
    missing_eq_surplus written expression.ofPostfix_postorder
  have reading := Reading.of_toPostfix written (equal.trans single) unmarked
  rwa [single] at reading

end PocketCalc
