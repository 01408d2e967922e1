import PocketCalc.Calculator
import PocketCalc.Proofs.Typing.Length

/-! # Runs of a calculator

A run carries out operations one after the other. Each of them does one of six things to the
calculator, and what all six preserve holds throughout the run.

* **`Calculator.Changes`** — what an operation can do.
* **`Calculator.changes_perform`** — no operation does anything else.
* **`Calculator.Changes.mem_entries`**, **`Calculator.Changes.buffer_cases`** — where the texts of a
  changed calculator come from.
* **`Calculator.run`** — the calculator after several operations.
* **`Calculator.run_induction`** — what every change preserves, a run preserves. -/

namespace PocketCalc.Calculator

/-- **What an operation at a moment can do to a calculator.** -/
inductive Changes (now : Timestamp) (calculator : Calculator) : Calculator → Prop where
  /-- Nothing happens. -/
  | kept : Changes now calculator calculator
  /-- The buffer is edited. -/
  | edited (key : Edit) :
      Changes now calculator (calculator.withBuffer (calculator.buffer.edit key))
  /-- The text of the buffer has a result, which is recorded and takes its place. -/
  | settled {result : List Char}
      (found : PocketCalc.evaluate calculator.buffer.text = .ok (some result)) :
      Changes now calculator (calculator.settle now result)
  /-- The expression of an entry takes the place of the text, if it has room. -/
  | reloaded {entry : Entry} (member : entry ∈ calculator.history.entries)
      (room : entry.expression.length ≤ calculator.buffer.limit) :
      Changes now calculator
        (calculator.withBuffer (calculator.buffer.replace entry.expression))
  /-- An entry is removed. -/
  | removed (index : Nat) : Changes now calculator (calculator.removeEntry index)
  /-- All entries are removed. -/
  | cleared : Changes now calculator calculator.clearHistory

variable {calculator : Calculator}

/-- An evaluation settles the calculator, or it has no result and changes nothing. -/
theorem changes_evaluate (now : Timestamp) :
    Changes now calculator (calculator.evaluate now).2 := by
  unfold evaluate
  cases found : PocketCalc.evaluate calculator.buffer.text with
  | error verdict => exact .kept
  | ok outcome =>
    cases outcome with
    | none => exact .kept
    | some result => exact .settled found

/-- Only the expression of an entry that has room is reloaded. -/
theorem reload_eq_true_iff {index : Nat} {next : Calculator} :
    calculator.reload index = (true, next) ↔ ∃ entry,
      calculator.history.entries[index]? = some entry ∧
        entry.expression.length ≤ calculator.buffer.limit ∧
        next = calculator.withBuffer (calculator.buffer.replace entry.expression) := by
  unfold reload
  cases calculator.history.entries[index]? with
  | none => simp
  | some entry =>
    by_cases room : entry.expression.length ≤ calculator.buffer.limit
    · simp [room, Nat.not_lt.mpr room, eq_comm]
    · simp [room, Nat.lt_of_not_le room]

/-- **Where nothing is reloaded, nothing changes.** -/
theorem reload_eq_of_false {index : Nat} {next : Calculator}
    (missing : calculator.reload index = (false, next)) : next = calculator := by
  unfold reload at missing
  split at missing
  · exact (Prod.mk.inj missing).2.symm
  · split at missing
    · exact (Prod.mk.inj missing).2.symm
    · cases missing

/-- An entry is reloaded, or there is none with room. -/
theorem changes_reload (now : Timestamp) (index : Nat) :
    Changes now calculator (calculator.reload index).2 := by
  rcases reloaded : calculator.reload index with ⟨_ | _, next⟩
  · obtain rfl := reload_eq_of_false reloaded
    exact .kept
  · obtain ⟨entry, found, room, rfl⟩ := reload_eq_true_iff.mp reloaded
    exact .reloaded (List.mem_of_getElem? found) room

/-- **Every operation is one of the changes.** -/
theorem changes_perform (calculator : Calculator) (now : Timestamp)
    (operation : CalculatorOperation) :
    Changes now calculator (calculator.perform now operation) := by
  cases operation with
  | command command =>
    cases command with
    | symbol character => exact .edited (.symbol character)
    | clear => exact .edited .clear
    | backspace => exact .edited .backspace
    | evaluate => exact changes_evaluate now
    | toggleSign => exact .edited .toggleSign
  | reload index => exact changes_reload now index
  | remove index => exact .removed index
  | clearHistory => exact .cleared

/-! ## Where texts come from -/

section Changed

variable {now : Timestamp} {next : Calculator}

/-- **Where entries come from**: an entry was there before, or it holds the text of the buffer with
the result that this text has. -/
theorem Changes.mem_entries (change : Changes now calculator next) {entry : Entry}
    (member : entry ∈ next.history.entries) :
    entry ∈ calculator.history.entries ∨ (entry.expression = calculator.buffer.text ∧
      PocketCalc.evaluate calculator.buffer.text = .ok (some entry.result)) := by
  cases change with
  | kept | edited | reloaded => exact .inl member
  | settled found =>
    rcases List.mem_cons.mp (List.mem_of_mem_take member) with rfl | older
    · exact .inr ⟨rfl, found⟩
    · exact .inl older
  | removed index =>
    exact .inl ((List.eraseIdx_sublist calculator.history.entries index).subset member)
  | cleared => cases member

/-- **Where the buffer comes from**: it is edited, or its text is replaced by the result that it has
or by the expression of an entry, which has room; or it stays. -/
theorem Changes.buffer_cases (change : Changes now calculator next) :
    next.buffer = calculator.buffer ∨
      (∃ key, next.buffer = calculator.buffer.edit key) ∨
      (∃ result, PocketCalc.evaluate calculator.buffer.text = .ok (some result) ∧
        next.buffer = calculator.buffer.replace result) ∨
      ∃ entry ∈ calculator.history.entries, entry.expression.length ≤ calculator.buffer.limit ∧
        next.buffer = calculator.buffer.replace entry.expression := by
  cases change with
  | kept | removed | cleared => exact .inl rfl
  | edited key => exact .inr (.inl ⟨key, rfl⟩)
  | settled found => exact .inr (.inr (.inl ⟨_, found, rfl⟩))
  | reloaded member room => exact .inr (.inr (.inr ⟨_, member, room, rfl⟩))

/-- No change moves the limit of the buffer. -/
theorem Changes.limit_eq (change : Changes now calculator next) :
    next.buffer.limit = calculator.buffer.limit := by
  rcases change.buffer_cases with same | ⟨key, edited⟩ | ⟨result, -, replaced⟩ |
    ⟨entry, -, -, replaced⟩
  · rw [same]
  · rw [edited, Buffer.limit_edit]
  · rw [replaced, Buffer.replace]
  · rw [replaced, Buffer.replace]

end Changed

/-! ## Runs -/

/-- **The calculator after several operations**, each at its moment. -/
def run (calculator : Calculator) (steps : List (Timestamp × CalculatorOperation)) : Calculator :=
  steps.foldl (fun reached step => reached.perform step.1 step.2) calculator

/-- Two runs one after the other are one. -/
theorem run_append (calculator : Calculator) (steps rest : List (Timestamp × CalculatorOperation)) :
    calculator.run (steps ++ rest) = (calculator.run steps).run rest :=
  List.foldl_append

/-- **What every change preserves, a run preserves.** -/
theorem run_induction {Holds : Calculator → Prop}
    (preserved : ∀ {now : Timestamp} {before after : Calculator}, Changes now before after →
      Holds before → Holds after)
    (initially : Holds calculator) (steps : List (Timestamp × CalculatorOperation)) :
    Holds (calculator.run steps) := by
  induction steps generalizing calculator with
  | nil => exact initially
  | cons step rest ih => exact ih (preserved (changes_perform _ _ _) initially)

end PocketCalc.Calculator
