import PocketCalc.Calculator

/-! # The panel

The panel is a calculator with a message line: a refused command, or anyone who asks, flashes a
message on the screen for a while. The time comes from the caller and may be of any type that can be
added, subtracted and compared. A message that has expired is not shown any more, whether it has
been purged or not.

* **`Panel.execute`** — carry out a command; a refusal flashes.
* **`Panel.purge`** — forget a message that has expired.
* **`Panel.screen`** — what the screen shows at a time. -/

namespace PocketCalc

/-- **A message on the screen.** -/
structure Flash (Time : Type) where
  /-- What is shown. -/
  message : List Char
  /-- The time from which it is not shown any more. -/
  expiry : Time
  deriving DecidableEq, Repr

/-- **A calculator with a message line.** -/
structure Panel (Time : Type) where
  /-- The calculator. -/
  calculator : Calculator
  /-- The last message, unless it has been purged. -/
  flash : Option (Flash Time)
  /-- How long a message shows. -/
  delay : Time

namespace Panel

variable {Time : Type}

/-- A panel without message. -/
def start (calculator : Calculator) (delay : Time) : Panel Time := ⟨calculator, none, delay⟩

/-- The panel with its calculator in another state. -/
def withCalculator (panel : Panel Time) (calculator : Calculator) : Panel Time :=
  { panel with calculator := calculator }

section Messages

variable [Add Time]

/-- **Flash a message** from now on, in place of the one there. -/
def showMessage (panel : Panel Time) (message : List Char) (now : Time) : Panel Time :=
  { panel with flash := some ⟨message, now + panel.delay⟩ }

/-- **Carry out a command**; a refusal is flashed. The moment is the one to record. -/
def execute (panel : Panel Time) (now : Time) (moment : Timestamp) (command : Command) :
    Panel Time :=
  let (outcome, next) := panel.calculator.execute moment command
  match outcome with
  | .ok () => panel.withCalculator next
  | .error error => (panel.withCalculator next).showMessage error.message.toList now

/-- Carry out commands one after the other. -/
def executeAll (panel : Panel Time) (now : Time) (moment : Timestamp) (commands : List Command) :
    Panel Time :=
  commands.foldl (fun current command => current.execute now moment command) panel

end Messages

/-- Reload an entry, if it can be reloaded. -/
def reload (panel : Panel Time) (index : Nat) : Panel Time :=
  panel.withCalculator (panel.calculator.reload index).2

/-- Remove an entry of the history. -/
def removeEntry (panel : Panel Time) (index : Nat) : Panel Time :=
  panel.withCalculator (panel.calculator.removeEntry index)

/-- Remove all entries of the history. -/
def clearHistory (panel : Panel Time) : Panel Time :=
  panel.withCalculator panel.calculator.clearHistory

section Reading

variable [Sub Time] [Zero Time] [LT Time] [DecidableLT Time]

/-- How long the message still shows, if it does. -/
def remaining? (panel : Panel Time) (now : Time) : Option Time :=
  panel.flash.bind fun flash =>
    let rest := flash.expiry - now
    if 0 < rest then some rest else none

/-- **Forget an expired message.** -/
def purge (panel : Panel Time) (now : Time) : Panel Time :=
  match panel.remaining? now with
  | some _ => panel
  | none => { panel with flash := none }

omit [Sub Time] [Zero Time] in
/-- The message that shows at a time. -/
def visible? (panel : Panel Time) (now : Time) : Option (List Char) :=
  panel.flash.bind fun flash => if now < flash.expiry then some flash.message else none

omit [Sub Time] [Zero Time] in
/-- Whether a message shows. -/
def isFlashing (panel : Panel Time) (now : Time) : Bool := (panel.visible? now).isSome

omit [Sub Time] [Zero Time] in
/-- **What the screen shows**: the message, or else the calculator's display. -/
def screen (panel : Panel Time) (now : Time) : List Char :=
  (panel.visible? now).getD panel.calculator.display

end Reading

end Panel

end PocketCalc
