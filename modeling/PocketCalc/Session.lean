import PocketCalc.Panel.Basic

/-! # Sessions

A session is one run of the program: it reads its settings, chooses where the history lives and
starts a panel, through which frames then pass. A settings file that is missing or faulty gives way
to the standard settings, and a machine without a data folder keeps the history in memory.

* **`Surroundings`** — what a session finds when it starts.
* **`Session.start`** — the panel of a session that starts.
* **`Session.leave`** — what the next session finds. -/

namespace PocketCalc

/-! ## The window -/

/-- **The window that a session opens.** -/
structure Window where
  /-- The name of the program. -/
  name : String
  /-- The title of the window. -/
  title : String
  /-- Width and height at the start. -/
  size : Nat × Nat
  /-- The least width and height. -/
  leastSize : Nat × Nat
  deriving DecidableEq, Repr

/-- The window of the calculator. -/
def window : Window where
  name := "Calculette"
  title := "Calculette"
  size := (620, 520)
  leastSize := (480, 440)

/-! ## The start -/

/-- **Where settings come from.** -/
inductive SettingsSource where
  /-- No file is named. -/
  | unset
  /-- The file with this path is named, and holds a text if it can be read. -/
  | file (path : List Char) (content : Option (List Char))
  deriving DecidableEq, Repr

/-- The settings in a file, if it can be read and holds some. -/
def fileSettings? (content : Option (List Char)) : Option Settings :=
  content.bind fun text => (Settings.ofJson text).toOption

/-- The settings of a session: those of its file, or else the standard ones. -/
def SettingsSource.settings : SettingsSource → Settings
  | unset => Settings.standard
  | file _ content => (fileSettings? content).getD Settings.standard

/-- **What a session finds when it starts.** -/
structure Surroundings where
  /-- Where settings come from. -/
  settings : SettingsSource
  /-- The path of the data folder and what is there, if the machine has one. -/
  folder : Option (List Char × Folder)
  deriving DecidableEq, Repr

namespace Surroundings

/-- The storage of a session. -/
def storage (surroundings : Surroundings) : Storage :=
  match surroundings.folder with
  | some (_, folder) => .disk folder
  | none => .memory []

end Surroundings

/-- The time that a message shows, in seconds. -/
def Settings.flashSeconds (settings : Settings) : Binary64 :=
  Binary64.ofNat settings.flashDelay / Binary64.ofNat 1000

namespace Session

/-- A panel for the given settings and storage. -/
def panel (settings : Settings) (storage : Storage) : Panel Binary64 :=
  Panel.start (Calculator.start settings storage) settings.flashSeconds

/-- **The panel of a session that starts.** -/
def start (surroundings : Surroundings) : Panel Binary64 :=
  panel surroundings.settings.settings surroundings.storage

/-- The surroundings that a session leaves: what its history was saved to, if that lasts. -/
def leave (surroundings : Surroundings) (last : Panel Binary64) : Surroundings :=
  match surroundings.folder, last.calculator.history.storage with
  | some (path, _), .disk folder => { surroundings with folder := some (path, folder) }
  | _, _ => surroundings

end Session

end PocketCalc
