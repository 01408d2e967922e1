import PocketCalc.Panel.Basic

/-! # Frames

The program lives in frames. In each one the keyboard is read, the history panel is drawn and then
clicked, the screen is drawn, the keypad is clicked, and an expired message is purged. What is drawn
is therefore what was there before a click took effect.

* **`Widget`** — what can be clicked.
* **`Panel.offers`** — whether a widget is there to be clicked.
* **`Panel.advance`** — one frame: the panel afterwards and what was drawn. -/

namespace PocketCalc

/-- **An event of the keyboard.** -/
inductive KeyEvent where
  /-- Characters typed. -/
  | typed (text : List Char)
  /-- A named key pressed. -/
  | pressed (key : NamedKey)
  deriving DecidableEq, Repr

/-- The commands of an event, in order. -/
def KeyEvent.commands : KeyEvent → List Command
  | typed text => text.filterMap Command.ofChar?
  | pressed key => [Command.ofKey key]

/-- **What can be clicked.** -/
inductive Widget where
  /-- A key of the keypad. -/
  | key (command : Command)
  /-- A row of the history, which reloads its entry. -/
  | row (index : Nat)
  /-- The button of a row that removes its entry. -/
  | bin (index : Nat)
  /-- The button that removes all entries. -/
  | clearHistory
  deriving DecidableEq, Repr

/-- The keypad, row by row: labels and commands. -/
def keypad : List (String × Command) :=
  [("C", .clear), ("DEL", .backspace), ("%", .symbol '%'), ("÷", .symbol '÷'),
    ("7", .symbol '7'), ("8", .symbol '8'), ("9", .symbol '9'), ("×", .symbol '×'),
    ("4", .symbol '4'), ("5", .symbol '5'), ("6", .symbol '6'), ("−", .symbol '−'),
    ("1", .symbol '1'), ("2", .symbol '2'), ("3", .symbol '3'), ("+", .symbol '+'),
    ("±", .toggleSign), ("0", .symbol '0'), (".", .symbol '.'), ("=", .evaluate),
    ("(", .symbol '('), (")", .symbol ')')]

/-- The label of the button that removes all entries. -/
def clearHistoryLabel : String := "Effacer l’historique"

/-- The line drawn in place of an empty history. -/
def emptyHistoryLine : String := "Aucun calcul pour l’instant"

/-- The widget with a label. -/
def Widget.ofLabel? (label : String) : Option Widget :=
  if label = clearHistoryLabel then some .clearHistory
  else (keypad.lookup label).map .key

/-- **What happens in a frame.** -/
structure Frame (Time : Type) where
  /-- The time of the frame. -/
  time : Time
  /-- The events of the keyboard, in order. -/
  events : List KeyEvent
  /-- What is clicked. -/
  click : Option Widget

/-- **What a frame draws.** -/
structure Drawing where
  /-- The text of the screen. -/
  screen : List Char
  /-- The expressions of the history, newest first. -/
  expressions : List (List Char)
  /-- The results of the history, or the line that says there are none. -/
  results : List (List Char)
  deriving DecidableEq, Repr

namespace Panel

variable {Time : Type}

/-- **Whether a widget is there**: the rows of entries, and a button to remove them if there are
any. -/
def offers (panel : Panel Time) : Widget → Bool
  | .key _ => true
  | .row index => index < panel.calculator.history.entries.length
  | .bin index => index < panel.calculator.history.entries.length
  | .clearHistory => !panel.calculator.history.entries.isEmpty

/-- The effect of a click on the history. -/
def clickHistory (panel : Panel Time) (widget : Widget) : Panel Time :=
  if panel.offers widget then
    match widget with
    | .row index => panel.reload index
    | .bin index => panel.removeEntry index
    | .clearHistory => panel.clearHistory
    | .key _ => panel
  else panel

variable [Add Time] [Sub Time] [Zero Time] [LT Time] [DecidableLT Time]

omit [Sub Time] [Zero Time] [LT Time] [DecidableLT Time] in
/-- The effect of a click on the keypad. -/
def clickKeypad (panel : Panel Time) (now : Time) (moment : Timestamp) : Widget → Panel Time
  | .key command => panel.execute now moment command
  | _ => panel

omit [Sub Time] [Zero Time] [LT Time] [DecidableLT Time] in
/-- The panel after the keyboard has been read. -/
def typeEvents (panel : Panel Time) (now : Time) (moment : Timestamp) (events : List KeyEvent) :
    Panel Time :=
  panel.executeAll now moment (events.flatMap KeyEvent.commands)

omit [Add Time] [Sub Time] [Zero Time] in
/-- What is drawn when the rows are those of one panel and the screen that of another. -/
def draw (rows shown : Panel Time) (now : Time) : Drawing :=
  let entries := rows.calculator.history.entries
  { screen := shown.screen now
    expressions := entries.map (·.expression)
    results :=
      if entries.isEmpty then [emptyHistoryLine.toList] else entries.map (·.result) }

/-- **One frame.** -/
def advance (panel : Panel Time) (moment : Timestamp) (frame : Frame Time) :
    Panel Time × Drawing :=
  let typed := panel.typeEvents frame.time moment frame.events
  let chosen := frame.click.elim typed typed.clickHistory
  let pressed := frame.click.elim chosen (chosen.clickKeypad frame.time moment)
  (pressed.purge frame.time, draw typed chosen frame.time)

end Panel

end PocketCalc
