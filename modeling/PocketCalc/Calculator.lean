import PocketCalc.Typing.Sign
import PocketCalc.Typing.Command
import PocketCalc.Expression.Evaluation
import PocketCalc.History.Basic
import PocketCalc.Settings

/-! # The calculator

A calculator is an expression buffer and a history. A successful evaluation is recorded and then its
result takes the place of the expression. What may fail gives its outcome, and beside it the
calculator as it is then, whether it has failed or not.

* **`Calculator.evaluate`** — evaluate the buffer.
* **`Calculator.execute`** — carry out a command.
* **`Calculator.reload`** — put the expression of an entry into the buffer again.
* **`Calculator.perform`** — carry out any operation, whatever its outcome. -/

namespace PocketCalc

/-- **Why a command is refused.** -/
inductive CommandError where
  /-- The buffer refuses the change. -/
  | refused (refusal : Refusal)
  /-- The text has no result. -/
  | failed (verdict : EvalError)
  deriving DecidableEq, Repr

/-- The words that are shown. -/
def CommandError.message : CommandError → String
  | refused refusal => refusal.message
  | failed verdict => verdict.message

/-- **A calculator.** -/
structure Calculator where
  /-- The expression being typed. -/
  buffer : Buffer
  /-- The evaluations so far. -/
  history : History
  deriving DecidableEq, Repr

namespace Calculator

/-- A calculator with nothing typed and the history that is stored. -/
def start (settings : Settings) (storage : Storage) : Calculator where
  buffer := Buffer.empty settings.maxLength
  history := History.load storage settings.historyKey settings.maxEntries

/-- What the screen shows: the text typed, or a zero. -/
def display (calculator : Calculator) : List Char :=
  if calculator.buffer.isEmpty then ['0'] else calculator.buffer.text

/-- What is shown is the text, unless it is empty. -/
theorem display_eq (calculator : Calculator) :
    calculator.display =
      if calculator.buffer.text = [] then ['0'] else calculator.buffer.text := by
  simp only [display, Buffer.isEmpty, List.isEmpty_iff]

/-- The calculator with another buffer. -/
def withBuffer (calculator : Calculator) (buffer : Buffer) : Calculator :=
  { calculator with buffer := buffer }

/-- The calculator with another history. -/
def withHistory (calculator : Calculator) (history : History) : Calculator :=
  { calculator with history := history }

/-- The calculator after a result: it is recorded in the history, and then put into the buffer. -/
def settle (calculator : Calculator) (now : Timestamp) (result : List Char) : Calculator :=
  let recorded := calculator.withHistory
    (calculator.history.record ⟨calculator.buffer.text, result, now⟩)
  recorded.withBuffer (recorded.buffer.replace result)

/-- **Evaluate the buffer**: the result or why there is none, and the calculator afterwards. A blank
buffer has no result, and nothing happens. -/
def evaluate (calculator : Calculator) (now : Timestamp) :
    Except EvalError (Option (List Char)) × Calculator :=
  match PocketCalc.evaluate calculator.buffer.text with
  | .error verdict => (.error verdict, calculator)
  | .ok none => (.ok none, calculator)
  | .ok (some result) => (.ok (some result), calculator.settle now result)

/-- Put what an edit has left into the buffer, and pass its outcome on. -/
def edit (calculator : Calculator) (edited : Except Refusal Unit × Buffer) :
    Except CommandError Unit × Calculator :=
  (edited.1.mapError .refused, calculator.withBuffer edited.2)

/-- **Carry out a command**: whether it succeeds, and the calculator afterwards. -/
def execute (calculator : Calculator) (now : Timestamp) :
    Command → Except CommandError Unit × Calculator
  | .symbol character => calculator.edit (calculator.buffer.add character)
  | .clear => (.ok (), calculator.withBuffer calculator.buffer.clear)
  | .backspace => (.ok (), calculator.withBuffer calculator.buffer.backspace)
  | .toggleSign => calculator.edit calculator.buffer.toggleSign
  | .evaluate =>
    let (outcome, next) := calculator.evaluate now
    ((outcome.mapError .failed).map fun _ => (), next)

/-- **Reload an entry**: put its expression into the buffer, without evaluating it. There is nothing
to reload beyond the last entry, or if the expression is longer than the buffer may be. The answer
says whether an entry was reloaded. -/
def reload (calculator : Calculator) (index : Nat) : Bool × Calculator :=
  match calculator.history.entries[index]? with
  | none => (false, calculator)
  | some entry =>
    if calculator.buffer.limit < entry.expression.length then (false, calculator)
    else (true, calculator.withBuffer (calculator.buffer.replace entry.expression))

/-- Remove an entry from the history. -/
def removeEntry (calculator : Calculator) (index : Nat) : Calculator :=
  calculator.withHistory (calculator.history.remove index)

/-- Remove all entries from the history. -/
def clearHistory (calculator : Calculator) : Calculator :=
  calculator.withHistory calculator.history.clear

end Calculator

/-! ## Operations -/

/-- **Anything that can be asked of a calculator.** -/
inductive CalculatorOperation where
  /-- Carry out a command. -/
  | command (command : Command)
  /-- Reload the entry at an index. -/
  | reload (index : Nat)
  /-- Remove the entry at an index. -/
  | remove (index : Nat)
  /-- Remove all entries. -/
  | clearHistory
  deriving DecidableEq, Repr

namespace Calculator

/-- **The calculator after an operation** at a moment, whatever the outcome. -/
def perform (calculator : Calculator) (now : Timestamp) : CalculatorOperation → Calculator
  | .command command => (calculator.execute now command).2
  | .reload index => (calculator.reload index).2
  | .remove index => calculator.removeEntry index
  | .clearHistory => calculator.clearHistory

end Calculator

end PocketCalc
