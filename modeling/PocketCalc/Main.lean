import PocketCalc.Journal.Session

/-! # The calculator in a terminal

Every line of input is a frame. A line that is the label of a key clicks it, an empty line presses
the key that evaluates, and any other line is typed. What the panel then shows is printed, and the
journal goes to the error output, filtered as the first argument says. The history lives in memory.
-/

namespace PocketCalc.Terminal

/-- What a line of input does at a time. -/
def frame (time : Binary64) (line : String) : Frame Binary64 :=
  if line.isEmpty then ⟨time, [.pressed .enter], none⟩
  else match Widget.ofLabel? line with
    | some widget => ⟨time, [], some widget⟩
    | none => ⟨time, [.typed line.toList], none⟩

/-- A frame in which nothing happens. -/
def idle (time : Binary64) : Frame Binary64 := ⟨time, [], none⟩

/-- The lines of a drawing: the history below, the screen above it. -/
def lines (drawing : Drawing) : List String :=
  let rows :=
    if drawing.expressions.isEmpty then drawing.results
    else List.zipWith (fun expression result => expression ++ " = ".toList ++ result)
      drawing.expressions drawing.results
  String.ofList drawing.screen :: rows.map fun row => "  " ++ String.ofList row

/-- A line of the journal as it is printed. -/
def journalLine (line : Journal.Line) : String :=
  line.level.word ++ " " ++ String.ofList line.source.target ++ ": " ++ String.ofList line.text

/-- The moment of all entries: a terminal shows no moments and keeps none. -/
def moment : Timestamp := ⟨⟨1970, 1, 1, by decide, by decide⟩, 0, 0, 0, 0, by decide⟩

/-- A session without settings and without a data folder. -/
def surroundings : Surroundings := ⟨.unset, none⟩

/-- Print the lines of the journal that a filter shows. -/
def report (filter : Journal.Filter) (told : List Journal.Line) : IO Unit := do
  for line in told.filter filter.shows do
    IO.eprintln (journalLine line)

/-- Print what a panel shows at a time. -/
def present (panel : Panel Binary64) (time : Binary64) : IO Unit := do
  for line in lines (panel.advance moment (idle time)).2 do
    IO.println line

/-- The time in seconds. -/
def clock : IO Binary64 := do
  return Binary64.ofDecimal (← IO.monoMsNow) 3

/-- One frame for every line of input, until it ends. -/
partial def run (filter : Journal.Filter) (panel : Panel Binary64) : IO Unit := do
  let text ← (← IO.getStdin).getLine
  unless text.isEmpty do
    let time ← clock
    let frame := frame time (text.dropEndWhile (· == '\n')).toString
    report filter (panel.frameJournal moment frame)
    let next := (panel.advance moment frame).1
    present next time
    run filter next

end PocketCalc.Terminal

/-- Run a session in the terminal. -/
def main (arguments : List String) : IO Unit := do
  let surroundings := PocketCalc.Terminal.surroundings
  let filter := PocketCalc.Session.filter (arguments.head?.map String.toList)
  let panel := PocketCalc.Session.start surroundings
  IO.println PocketCalc.window.title
  PocketCalc.Terminal.report filter (PocketCalc.Session.startJournal surroundings)
  PocketCalc.Terminal.present panel (← PocketCalc.Terminal.clock)
  PocketCalc.Terminal.run filter panel
