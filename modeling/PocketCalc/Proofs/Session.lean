import PocketCalc.Proofs.Calculator.Restart
import PocketCalc.Panel.Frame
import PocketCalc.Session

/-! # Sessions one after the other

A frame does to the calculator what some operations do, so that what every run of a calculator
keeps, a session keeps. A session that ends leaves its storage to the next: with a data folder that
takes the history, every session starts with the entries that the one before it had at its end, and
without a folder every session starts with none.

* **`Panel.frameSteps`**, **`Panel.calculator_advance`** — what a frame does to the calculator.
* **`Panel.calculator_runFrames`** — what frames do to it one after the other.
* **`Session.run`**, **`Session.next`** — a session, and what the next one finds.
* **`Session.entries_start_next`** — no entry is lost or invented between two sessions. -/

namespace PocketCalc

/-! ## Frames -/

namespace Panel

variable {Time : Type}

/-- The operation that a click stands for; none for a widget that is not there. -/
def clicked? (panel : Panel Time) (widget : Widget) : Option CalculatorOperation :=
  if panel.offers widget then
    match widget with
    | .key command => some (.command command)
    | .row index => some (.reload index)
    | .bin index => some (.remove index)
    | .clearHistory => some .clearHistory
  else none

/-- **The steps of a frame**: its commands, and then what is clicked, all at one moment. -/
def frameSteps [Add Time] (panel : Panel Time) (moment : Timestamp) (frame : Frame Time) :
    List (Timestamp × CalculatorOperation) :=
  let typed := panel.typeEvents frame.time moment frame.events
  (frame.events.flatMap KeyEvent.commands).map (fun command => (moment, .command command)) ++
    (frame.click.bind typed.clicked?).toList.map fun operation => (moment, operation)

section Commands

variable [Add Time]

/-- A command does to the calculator what it does without a panel. -/
theorem calculator_execute (panel : Panel Time) (now : Time) (moment : Timestamp)
    (command : Command) :
    (panel.execute now moment command).calculator =
      panel.calculator.perform moment (.command command) := by
  unfold execute
  simp only
  split <;> rfl

/-- Commands do to it what they do in a run. -/
theorem calculator_executeAll (panel : Panel Time) (now : Time) (moment : Timestamp)
    (commands : List Command) :
    (panel.executeAll now moment commands).calculator =
      panel.calculator.run (commands.map fun command => (moment, .command command)) := by
  induction commands generalizing panel with
  | nil => rfl
  | cons command rest ih =>
    have later := ih (panel.execute now moment command)
    rw [calculator_execute] at later
    exact later

/-- **A click** does to it what its operation does, or nothing. -/
theorem calculator_click (panel : Panel Time) (now : Time) (moment : Timestamp) (widget : Widget) :
    ((panel.clickHistory widget).clickKeypad now moment widget).calculator =
      panel.calculator.run ((panel.clicked? widget).toList.map fun operation =>
        (moment, operation)) := by
  unfold clickHistory clicked?
  by_cases offered : panel.offers widget = true
  · rw [if_pos offered, if_pos offered]
    cases widget with
    | key command => exact calculator_execute panel now moment command
    | row index => rfl
    | bin index => rfl
    | clearHistory => rfl
  · rw [if_neg offered, if_neg offered]
    cases widget with
    | key command => exact absurd rfl offered
    | row index => rfl
    | bin index => rfl
    | clearHistory => rfl

end Commands

variable [Add Time] [Sub Time] [Zero Time] [LT Time] [DecidableLT Time]

omit [Add Time] in
/-- A purge has no part in the calculator. -/
theorem calculator_purge (panel : Panel Time) (now : Time) :
    (panel.purge now).calculator = panel.calculator := by
  unfold purge
  split <;> rfl

/-- **A frame does to the calculator** what its steps do in a run. -/
theorem calculator_advance (panel : Panel Time) (moment : Timestamp) (frame : Frame Time) :
    (panel.advance moment frame).1.calculator =
      panel.calculator.run (panel.frameSteps moment frame) := by
  have typed := panel.calculator_executeAll frame.time moment
    (frame.events.flatMap KeyEvent.commands)
  unfold advance frameSteps
  simp only [calculator_purge]
  rw [Calculator.run_append, ← typed]
  cases frame.click with
  | none => rfl
  | some widget => exact calculator_click _ frame.time moment widget

/-- The panel after several frames, each at its moment. -/
def runFrames (panel : Panel Time) (frames : List (Timestamp × Frame Time)) : Panel Time :=
  frames.foldl (fun reached frame => (reached.advance frame.1 frame.2).1) panel

/-- The steps of several frames. -/
def allSteps (panel : Panel Time) :
    List (Timestamp × Frame Time) → List (Timestamp × CalculatorOperation)
  | [] => []
  | (moment, frame) :: rest =>
    panel.frameSteps moment frame ++ allSteps (panel.advance moment frame).1 rest

/-- **Frames do to the calculator** what their steps do in a run. -/
theorem calculator_runFrames (panel : Panel Time) (frames : List (Timestamp × Frame Time)) :
    (panel.runFrames frames).calculator = panel.calculator.run (panel.allSteps frames) := by
  induction frames generalizing panel with
  | nil => rfl
  | cons frame rest ih =>
    rw [allSteps, Calculator.run_append, ← calculator_advance]
    exact ih (panel.advance frame.1 frame.2).1

end Panel

/-! ## Where the history is -/

/-- A calculator that keeps its history in a folder. -/
def Calculator.OnDisk (calculator : Calculator) : Prop :=
  ∃ folder, calculator.history.storage = .disk folder

/-- A save leaves the history in a folder. -/
theorem History.exists_folder_save {history : History} {folder : Folder}
    (onDisk : history.storage = .disk folder) : ∃ next, history.save.2.storage = .disk next := by
  refine ⟨(folder.write history.key (Entry.listJson history.entries)).2, ?_⟩
  simp only [save, onDisk, Storage.write]

/-- **No change takes the history out of its folder.** -/
theorem Calculator.OnDisk.changes {calculator next : Calculator} {now : Timestamp}
    (onDisk : calculator.OnDisk) (change : Changes now calculator next) : next.OnDisk := by
  obtain ⟨folder, eq⟩ := onDisk
  cases change with
  | kept | edited | reloaded => exact ⟨folder, eq⟩
  | settled found => exact History.exists_folder_save eq
  | removed index => exact History.exists_folder_save eq
  | cleared => exact History.exists_folder_save eq

/-! ## Sessions -/

/-- **Surroundings in which a history lasts**: there is a data folder, and it takes the texts of the
key that the settings give. -/
def Surroundings.Lasting (surroundings : Surroundings) : Prop :=
  ∃ path folder, surroundings.folder = some (path, folder) ∧
    folder.Takes surroundings.settings.settings.historyKey

namespace Session

variable {surroundings : Surroundings}

/-- The panel at the end of a session. -/
def run (surroundings : Surroundings) (frames : List (Timestamp × Frame Binary64)) :
    Panel Binary64 :=
  (start surroundings).runFrames frames

/-- The surroundings that a session leaves. -/
def next (surroundings : Surroundings) (frames : List (Timestamp × Frame Binary64)) :
    Surroundings :=
  leave surroundings (run surroundings frames)

/-- The surroundings after several sessions. -/
def afterAll (surroundings : Surroundings)
    (sessions : List (List (Timestamp × Frame Binary64))) : Surroundings :=
  sessions.foldl next surroundings

/-- A panel starts with the calculator that starts on the storage there is. -/
theorem calculator_start (surroundings : Surroundings) :
    (start surroundings).calculator =
      Calculator.start surroundings.settings.settings surroundings.storage := rfl

/-- **What a session leaves**: the folder in which it has its history, and nothing else is new. -/
theorem exists_folder_next (lasting : surroundings.Lasting)
    (frames : List (Timestamp × Frame Binary64)) :
    ∃ path folder, (run surroundings frames).calculator.history.storage = .disk folder ∧
      next surroundings frames = { surroundings with folder := some (path, folder) } := by
  obtain ⟨path, folder, found, -⟩ := lasting
  have starts : (start surroundings).calculator.OnDisk := by
    refine ⟨folder, ?_⟩
    rw [calculator_start]
    simp only [Calculator.start, History.load, Surroundings.storage, found]
  have stays : (run surroundings frames).calculator.OnDisk := by
    rw [run, Panel.calculator_runFrames]
    exact Calculator.run_induction (fun change onDisk => onDisk.changes change) starts _
  obtain ⟨last, onDisk⟩ := stays
  refine ⟨path, last, onDisk, ?_⟩
  simp only [next, leave, found, onDisk]

/-- The history of a session is one that a restart finds again. -/
theorem stored_run (lasting : surroundings.Lasting) (frames : List (Timestamp × Frame Binary64)) :
    (run surroundings frames).calculator.Stored surroundings.settings.settings := by
  obtain ⟨path, folder, found, takes⟩ := lasting
  rw [run, Panel.calculator_runFrames, calculator_start]
  refine (Calculator.stored_start ?_).run _
  simp only [Surroundings.storage, found]
  exact Storage.takes_disk_iff.mpr takes

/-- **Between two sessions** no entry is lost or invented, and the history lasts on. -/
theorem entries_start_next (lasting : surroundings.Lasting)
    (frames : List (Timestamp × Frame Binary64)) :
    (start (next surroundings frames)).calculator.history.entries =
        (run surroundings frames).calculator.history.entries ∧
      (next surroundings frames).Lasting := by
  obtain ⟨path, folder, onDisk, left⟩ := exists_folder_next lasting frames
  have stored := stored_run lasting frames
  constructor
  · have entries := stored.entries_start
    rw [onDisk] at entries
    rw [left]
    exact entries
  · have takes := stored.history.takes
    rw [stored.key, onDisk] at takes
    rw [left]
    exact ⟨path, folder, rfl, Storage.takes_disk_iff.mp takes⟩

/-- The history lasts through any number of sessions. -/
theorem lasting_afterAll (lasting : surroundings.Lasting)
    (sessions : List (List (Timestamp × Frame Binary64))) :
    (afterAll surroundings sessions).Lasting := by
  induction sessions generalizing surroundings with
  | nil => exact lasting
  | cons frames rest ih => exact ih (entries_start_next lasting frames).2

/-- **Every session starts** with the entries that the one before it had at its end, however many
there were before. -/
theorem entries_start_afterAll (lasting : surroundings.Lasting)
    (sessions : List (List (Timestamp × Frame Binary64)))
    (frames : List (Timestamp × Frame Binary64)) :
    (start (afterAll surroundings (sessions ++ [frames]))).calculator.history.entries =
      (run (afterAll surroundings sessions) frames).calculator.history.entries := by
  rw [afterAll, List.foldl_append]
  exact (entries_start_next (lasting_afterAll lasting sessions) frames).1

/-- **Without a data folder** every session starts with no entry. -/
theorem entries_start_afterAll_of_none (none : surroundings.folder = none)
    (sessions : List (List (Timestamp × Frame Binary64))) :
    (start (afterAll surroundings sessions)).calculator.history.entries = [] := by
  have same : afterAll surroundings sessions = surroundings := by
    induction sessions with
    | nil => rfl
    | cons frames rest ih =>
      have kept : next surroundings frames = surroundings := by simp only [next, leave, none]
      rw [afterAll, List.foldl_cons, kept]
      exact ih
  rw [same, calculator_start]
  simp only [Calculator.start, Surroundings.storage, none]
  exact List.take_nil

end Session

end PocketCalc
