import PocketCalc.Expression.SyntaxError
import PocketCalc.Expression.Token

/-! # Postfix order

Parentheses and precedence are resolved by writing every operation behind its operands. Operations
wait on a stack until an operation that binds less tightly, a closing parenthesis or the end of the
expression releases them; equal precedence releases too, so operations associate to the left. A
minus sign where no value precedes is a negation: it binds tightest and releases nothing.

* **`toPostfix`** — tokens in postfix order, or the fault of the leftmost offending token.
* **`Waiting.close?_eq_some_iff`** — a closing parenthesis releases what waits above an opening one.
* **`Waiting.unwind_eq_ok_iff`** — the end of an expression leaves no parenthesis waiting. -/

namespace PocketCalc

/-- **What waits on the stack** while tokens are put into postfix order. -/
inductive Waiting where
  /-- An opening parenthesis. -/
  | opening
  /-- A negation. -/
  | negate
  /-- A binary operation. -/
  | operation (operation : Operation)
  deriving DecidableEq, Repr

namespace Waiting

/-- The token that was put on the stack. -/
def token : Waiting → Token
  | opening => .opening
  | negate => .negate
  | operation joining => .operation joining

/-- Whether an incoming operation releases this item: it binds at least as tightly. -/
def yieldsTo (incoming : Operation) : Waiting → Bool
  | opening => false
  | negate => true
  | operation joining => incoming.precedence ≤ joining.precedence

/-- Release the stack down to the innermost opening parenthesis: the tokens released and the stack
below the parenthesis, if there is one. -/
def close? : List Waiting → Option (List Token × List Waiting)
  | [] => none
  | opening :: below => some ([], below)
  | item :: below => (close? below).map fun (released, rest) => (item.token :: released, rest)

/-- A closing parenthesis releases exactly what waits above the innermost opening one. -/
theorem close?_eq_some_iff {stack below : List Waiting} {released : List Token} :
    close? stack = some (released, below) ↔ ∃ items, opening ∉ items ∧
      stack = items ++ opening :: below ∧ released = items.map token := by
  induction stack generalizing released with
  | nil => simp [close?]
  | cons item rest ih =>
    by_cases parenthesis : item = opening
    · subst parenthesis
      constructor
      · intro closed
        simp only [close?, Option.some.injEq, Prod.mk.injEq] at closed
        exact ⟨[], by simp, by rw [← closed.2]; rfl, closed.1.symm⟩
      · rintro ⟨items, free, same, rfl⟩
        cases items with
        | nil =>
          obtain ⟨-, rfl⟩ := List.cons_eq_cons.mp same
          rfl
        | cons first others =>
          obtain ⟨rfl, -⟩ := List.cons_eq_cons.mp same
          simp at free
    · rw [close?.eq_3 item rest parenthesis, Option.map_eq_some_iff]
      constructor
      · rintro ⟨⟨more, under⟩, inner, same⟩
        simp only [Prod.mk.injEq] at same
        obtain ⟨rfl, rfl⟩ := same
        obtain ⟨items, free, rfl, rfl⟩ := ih.mp inner
        exact ⟨item :: items, by simp [free, Ne.symm parenthesis], rfl, rfl⟩
      · rintro ⟨items, free, same, rfl⟩
        cases items with
        | nil => exact absurd (List.cons_eq_cons.mp same).1 parenthesis
        | cons first others =>
          obtain ⟨rfl, rfl⟩ := List.cons_eq_cons.mp same
          simp only [List.mem_cons, not_or] at free
          exact ⟨(others.map token, below), ih.mpr ⟨others, free.2, rfl, rfl⟩, rfl⟩

/-- Release the whole stack at the end of an expression. -/
def unwind : List Waiting → Except SyntaxError (List Token)
  | [] => .ok []
  | opening :: _ => .error .unclosed
  | item :: below => (unwind below).map (item.token :: ·)

/-- The end of an expression releases exactly the stacks without a parenthesis. -/
theorem unwind_eq_ok_iff {stack : List Waiting} {released : List Token} :
    unwind stack = .ok released ↔ opening ∉ stack ∧ released = stack.map token := by
  induction stack generalizing released with
  | nil => simp [unwind, eq_comm]
  | cons item below ih =>
    by_cases parenthesis : item = opening
    · simp [parenthesis, unwind]
    · rw [unwind.eq_3 item below (fun h => parenthesis h)]
      cases tail : unwind below with
      | error fault =>
        have held : opening ∈ below := by simpa [tail] using @ih (below.map token)
        simp [Except.map, held]
      | ok more =>
        obtain ⟨free, rfl⟩ := ih.mp tail
        simp [Except.map, free, Ne.symm parenthesis, eq_comm]

end Waiting

/-- The postfix order of the tokens still to come, given what waits and whether the token before
them ended a value. -/
def toPostfixFrom (waiting : List Waiting) (afterValue : Bool) :
    List Token → Except SyntaxError (List Token)
  | [] => Waiting.unwind waiting
  | .number value :: rest => (toPostfixFrom waiting true rest).map (.number value :: ·)
  | .opening :: rest => toPostfixFrom (.opening :: waiting) false rest
  | .closing :: rest =>
    match Waiting.close? waiting with
    | none => .error .unopened
    | some (released, below) => (toPostfixFrom below true rest).map (released ++ ·)
  | .negate :: rest => toPostfixFrom (.negate :: waiting) false rest
  | .operation operation :: rest =>
    if afterValue then
      let released := (waiting.takeWhile (Waiting.yieldsTo operation)).map Waiting.token
      let below := waiting.dropWhile (Waiting.yieldsTo operation)
      (toPostfixFrom (.operation operation :: below) false rest).map (released ++ ·)
    else if operation = .subtract then toPostfixFrom (.negate :: waiting) false rest
    else .error .missingOperand

/-- **The postfix order of an expression's tokens.** -/
def toPostfix (tokens : List Token) : Except SyntaxError (List Token) :=
  toPostfixFrom [] false tokens

end PocketCalc
