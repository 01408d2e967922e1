import PocketCalc.Panel.Frame
import PocketCalc.Journal.Calculator

/-! # What the panel tells

A panel adds one line of its own to those of its calculator: a command that is refused is named with
the message that is flashed for it. The lines of a frame are those of its keyboard events and then
those of its click.

* **`Panel.executeJournal`** — a command.
* **`Panel.frameJournal`** — a frame. -/

namespace PocketCalc.Panel

open Journal

variable {Time : Type}

/-- What a command tells. -/
def executeJournal (panel : Panel Time) (moment : Timestamp) (command : Command) : List Line :=
  panel.calculator.executeJournal moment command ++
    match (panel.calculator.execute moment command).1 with
    | .ok () => []
    | .error error =>
      [⟨.debug, .screen, "commande refusée",
        [.shown "commande" command.word, .shown "erreur" error.message.toList]⟩]

/-- What commands tell one after the other. -/
def executeAllJournal [Add Time] (panel : Panel Time) (now : Time) (moment : Timestamp) :
    List Command → List Line
  | [] => []
  | command :: rest =>
    panel.executeJournal moment command ++
      executeAllJournal (panel.execute now moment command) now moment rest

/-- What a click tells. -/
def clickJournal (panel : Panel Time) (moment : Timestamp) (widget : Widget) : List Line :=
  if panel.offers widget then
    match widget with
    | .row index => panel.calculator.journal moment (.reload index)
    | .bin index => panel.calculator.journal moment (.remove index)
    | .clearHistory => panel.calculator.journal moment .clearHistory
    | .key command => panel.executeJournal moment command
  else []

/-- **What a frame tells.** -/
def frameJournal [Add Time] (panel : Panel Time) (moment : Timestamp) (frame : Frame Time) :
    List Line :=
  let commands := frame.events.flatMap KeyEvent.commands
  let typed := panel.executeAll frame.time moment commands
  panel.executeAllJournal frame.time moment commands ++
    frame.click.elim [] (typed.clickJournal moment)

end PocketCalc.Panel
