import PocketCalc.Proofs.Calculator.Run
import PocketCalc.Proofs.Decimal.Layout
import PocketCalc.Proofs.Expression.Acceptance
import PocketCalc.Proofs.Typing.Parentheses

/-! # Parentheses during a run

Nothing that can be done to a calculator closes a parenthesis that is not open. Keys keep the text
of the buffer so; results, which take its place, have no parentheses; and what is reloaded was once
such a text. An entry of the history is balanced as well, because an unbalanced text has no result.

* **`Calculator.Paired`** — the invariant of a run.
* **`Calculator.Paired.changes`** — every change of the calculator keeps it.
* **`closesOwnParens_run`** — what holds after any run. -/

namespace PocketCalc

/-! ## Results -/

/-- A result has no parentheses. -/
theorem closesOwnParens_of_evaluate {text result : List Char}
    (found : evaluate text = .ok (some result)) : ClosesOwnParens result := by
  obtain ⟨negative, magnitude, rfl⟩ := exists_resultText_of_evaluate found
  refine .of_forall_ne fun c member => ?_
  rcases mem_resultText member with digit | rfl | rfl | rfl | rfl
  · exact ⟨ne_of_isDigit digit rfl, ne_of_isDigit digit rfl⟩
  all_goals decide

/-- A text that has a result is balanced. -/
theorem openParens_of_evaluate {text result : List Char}
    (found : evaluate text = .ok (some result)) : openParens text = 0 := by
  have accepted : IsAccepted text := .inl ⟨result, found⟩
  obtain ⟨-, -, balanced, -⟩ := prepare_eq_ok_some_iff.mp (isAccepted_iff.mp accepted).1
  exact balanced

/-! ## The invariant -/

namespace Calculator

/-- **No parenthesis is closed that is not open**, and those of the history are all closed. -/
structure Paired (calculator : Calculator) : Prop where
  /-- The text of the buffer closes only parentheses of its own. -/
  buffer : ClosesOwnParens calculator.buffer.text
  /-- So does the expression of an entry. -/
  expression : ∀ entry ∈ calculator.history.entries, ClosesOwnParens entry.expression
  /-- The expression of an entry closes all of them. -/
  balanced : ∀ entry ∈ calculator.history.entries, openParens entry.expression = 0

namespace Paired

variable {calculator : Calculator}

/-- Nothing is typed, and no entry is there. -/
theorem start {settings : Settings} {storage : Storage}
    (fresh : (Calculator.start settings storage).history.entries = []) :
    (Calculator.start settings storage).Paired where
  buffer := .of_forall_ne (by simp [Calculator.start, Buffer.empty])
  expression := by simp [fresh]
  balanced := by simp [fresh]

/-- **Every change of the calculator keeps its parentheses paired.** -/
theorem changes (paired : calculator.Paired) {now : Timestamp} {next : Calculator}
    (change : Changes now calculator next) : next.Paired where
  buffer := by
    rcases change.buffer_cases with same | ⟨key, edited⟩ | ⟨result, found, replaced⟩ |
      ⟨entry, member, -, replaced⟩
    · rw [same]
      exact paired.buffer
    · rw [edited]
      exact paired.buffer.edit key
    · rw [replaced]
      exact closesOwnParens_of_evaluate found
    · rw [replaced]
      exact paired.expression entry member
  expression := by
    intro entry member
    rcases change.mem_entries member with older | ⟨newest, -⟩
    · exact paired.expression entry older
    · rw [newest]
      exact paired.buffer
  balanced := by
    intro entry member
    rcases change.mem_entries member with older | ⟨newest, found⟩
    · exact paired.balanced entry older
    · rw [newest]
      exact openParens_of_evaluate found

/-- A run keeps the parentheses paired. -/
theorem run (paired : calculator.Paired) (steps : List (Timestamp × CalculatorOperation)) :
    (calculator.run steps).Paired :=
  run_induction (fun change paired => paired.changes change) paired steps

end Paired

end Calculator

/-- **Parentheses stay paired.** Let a calculator start without history and carry out any
operations. Then every beginning of the text of the buffer has at least as many opening as closing
parentheses, and so has every beginning of an expression of the history, which in addition has as
many of the one as of the other. -/
theorem closesOwnParens_run (settings : Settings) {storage : Storage}
    (fresh : (Calculator.start settings storage).history.entries = [])
    (steps : List (Timestamp × CalculatorOperation)) :
    let reached := (Calculator.start settings storage).run steps
    ClosesOwnParens reached.buffer.text ∧ ∀ entry ∈ reached.history.entries,
      ClosesOwnParens entry.expression ∧ openParens entry.expression = 0 := by
  intro reached
  have paired : reached.Paired := (Calculator.Paired.start fresh).run steps
  exact ⟨paired.buffer, fun entry member =>
    ⟨paired.expression entry member, paired.balanced entry member⟩⟩

/-- A group is wrapped and evaluated, its entry reloaded, and the wrapper cut open. -/
theorem closesOwnParens_run_of_wrapped_group :
    let moment : Timestamp := ⟨⟨2024, 2, 29, by decide, by decide⟩, 12, 30, 59, 0, by decide⟩
    let steps : List (Timestamp × CalculatorOperation) :=
      [(moment, .command (.symbol '(')), (moment, .command (.symbol '2')),
        (moment, .command (.symbol ')')), (moment, .command .toggleSign),
        (moment, .command .evaluate), (moment, .reload 0), (moment, .command .backspace)]
    let reached := (Calculator.start Settings.standard (.memory [])).run steps
    (Calculator.start Settings.standard (.memory [])).history.entries = [] ∧
      reached.buffer.text = "(-1)*((2)".toList ∧
      reached.history.entries = [⟨"(-1)*((2))".toList, "-2".toList, moment⟩] ∧
      ClosesOwnParens reached.buffer.text ∧ ∀ entry ∈ reached.history.entries,
        ClosesOwnParens entry.expression ∧ openParens entry.expression = 0 := by
  intro moment steps
  have fresh : (Calculator.start Settings.standard (.memory [])).history.entries = [] := rfl
  exact ⟨fresh, by decide +kernel, by decide +kernel,
    closesOwnParens_run Settings.standard fresh steps⟩

end PocketCalc
