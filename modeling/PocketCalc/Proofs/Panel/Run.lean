import PocketCalc.Panel.Basic

/-! # Runs of a panel

A run carries out steps one after the other: operations on the calculator, messages, and purges.
What the calculator does and which message is announced last can be told from the calculator alone,
and purges have no part in either.

* **`PanelStep`**, **`Panel.run`** — steps and runs.
* **`PanelStep.after`**, **`PanelStep.announced?`** — the calculator after a step, and the message
  that the step announces.
* **`latest?`** — the last message announced in a run, and when.
* **`Panel.perform_eq`** — a step does this and nothing else, unless it purges. -/

namespace PocketCalc

/-- **Anything that can be asked of a panel.** -/
inductive PanelOperation where
  /-- An operation on the calculator; a refused command flashes. -/
  | calculator (operation : CalculatorOperation)
  /-- Flash a message. -/
  | flash (message : List Char)
  /-- Forget an expired message. -/
  | purge
  deriving DecidableEq, Repr

/-- **A step of a panel.** -/
structure PanelStep (Time : Type) where
  /-- The time of the step. -/
  time : Time
  /-- The moment to record. -/
  moment : Timestamp
  /-- What is asked. -/
  operation : PanelOperation

variable {Time : Type}

namespace PanelStep

/-- Whether a step purges. -/
def isPurge (step : PanelStep Time) : Bool := step.operation == .purge

/-- The calculator after a step. -/
def after (step : PanelStep Time) (calculator : Calculator) : Calculator :=
  match step.operation with
  | .calculator operation => calculator.perform step.moment operation
  | .flash _ => calculator
  | .purge => calculator

/-- **The message that a step announces**: why a command is refused, or what is asked to flash. -/
def announced? (step : PanelStep Time) (calculator : Calculator) : Option (List Char) :=
  match step.operation with
  | .calculator (.command command) =>
    match (calculator.execute step.moment command).1 with
    | .ok () => none
    | .error error => some error.message.toList
  | .calculator _ => none
  | .flash message => some message
  | .purge => none

/-- A purge does nothing to the calculator and announces nothing. -/
theorem after_announced?_of_isPurge (step : PanelStep Time) (purges : step.isPurge = true)
    (calculator : Calculator) :
    step.after calculator = calculator ∧ step.announced? calculator = none := by
  have operation : step.operation = .purge := beq_iff_eq.mp purges
  simp [after, announced?, operation]

end PanelStep

/-- The calculator after several steps. -/
def afterAll (calculator : Calculator) (steps : List (PanelStep Time)) : Calculator :=
  steps.foldl (fun reached step => step.after reached) calculator

/-- **The last message announced in a run**, and the time at which it was. -/
def latest? (calculator : Calculator) : List (PanelStep Time) → Option (List Char × Time)
  | [] => none
  | step :: rest =>
    (latest? (step.after calculator) rest).or
      ((step.announced? calculator).map fun message => (message, step.time))

/-- The steps of a run that are not purges. -/
def lasting (steps : List (PanelStep Time)) : List (PanelStep Time) :=
  steps.filter fun step => !step.isPurge

/-- A purge is left out, and every other step stays. -/
theorem lasting_cons (step : PanelStep Time) (rest : List (PanelStep Time)) :
    lasting (step :: rest) = if step.isPurge then lasting rest else step :: lasting rest := by
  cases purges : step.isPurge <;> simp [lasting, purges]

/-- Purges have no part in the calculator. -/
theorem afterAll_lasting (calculator : Calculator) (steps : List (PanelStep Time)) :
    afterAll calculator (lasting steps) = afterAll calculator steps := by
  induction steps generalizing calculator with
  | nil => rfl
  | cons step rest ih =>
    rw [lasting_cons]
    split
    · rename_i purges
      rw [ih, afterAll, afterAll, List.foldl_cons, (step.after_announced?_of_isPurge purges _).1]
    · exact ih (step.after calculator)

/-- Purges have no part in what is announced. -/
theorem latest?_lasting (calculator : Calculator) (steps : List (PanelStep Time)) :
    latest? calculator (lasting steps) = latest? calculator steps := by
  induction steps generalizing calculator with
  | nil => rfl
  | cons step rest ih =>
    rw [lasting_cons]
    split
    · rename_i purges
      obtain ⟨same, nothing⟩ := step.after_announced?_of_isPurge purges calculator
      rw [ih, latest?, same, nothing, Option.map_none, Option.or_none]
    · rw [latest?, latest?, ih]

namespace Panel

variable [Add Time] [Sub Time] [Zero Time] [LT Time] [DecidableLT Time]

/-- **Carry out a step.** -/
def perform (panel : Panel Time) (step : PanelStep Time) : Panel Time :=
  match step.operation with
  | .calculator (.command command) => panel.execute step.time step.moment command
  | .calculator (.reload index) => panel.reload index
  | .calculator (.remove index) => panel.removeEntry index
  | .calculator .clearHistory => panel.clearHistory
  | .flash message => panel.showMessage message step.time
  | .purge => panel.purge step.time

/-- **The panel after several steps.** -/
def run (panel : Panel Time) (steps : List (PanelStep Time)) : Panel Time :=
  steps.foldl perform panel

/-- **A step that does not purge** changes the calculator, and puts what it announces in place of
the message there. -/
theorem perform_eq (panel : Panel Time) {step : PanelStep Time} (lasts : step.isPurge = false) :
    panel.perform step =
      { calculator := step.after panel.calculator
        flash := ((step.announced? panel.calculator).map fun message =>
          ⟨message, step.time + panel.delay⟩).or panel.flash
        delay := panel.delay } := by
  obtain ⟨time, moment, operation⟩ := step
  cases operation with
  | calculator operation =>
    cases operation with
    | command command =>
      simp only [perform, execute, PanelStep.after, PanelStep.announced?, Calculator.perform]
      cases (panel.calculator.execute moment command).1 with
      | ok accepted => rfl
      | error error => rfl
    | reload index => rfl
    | remove index => rfl
    | clearHistory => rfl
  | flash message => rfl
  | purge => cases lasts

end Panel

end PocketCalc
