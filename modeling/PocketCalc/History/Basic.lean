import PocketCalc.History.Entry
import PocketCalc.Storage.Basic

/-! # History

The history keeps the evaluations that succeeded, newest first and bounded in number. Every change
is saved at once under the history's key; a save that fails is not reported. A stored text that is
absent or unreadable gives an empty history.

* **`History.load`** — the history stored under a key.
* **`History.record`**, **`History.remove`**, **`History.clear`** — the changes, each saved. -/

namespace PocketCalc

/-- **The history**, with the place where it is stored. -/
structure History where
  /-- The entries, newest first. -/
  entries : List Entry
  /-- The number of entries kept. -/
  limit : Nat
  /-- The key under which the history is stored. -/
  key : List Char
  /-- Where the history is stored. -/
  storage : Storage
  deriving DecidableEq, Repr

/-- Why a stored history cannot be used. -/
inductive HistoryError where
  /-- The storage does not answer. -/
  | unreadable (cause : StorageError)
  /-- The stored text is no history. -/
  | invalid (cause : Json.Fault)
  deriving DecidableEq, Repr

/-- The entries stored under a key; none if nothing is stored. -/
def storedEntries (storage : Storage) (key : List Char) : Except HistoryError (List Entry) :=
  match storage.read key with
  | .error cause => .error (.unreadable cause)
  | .ok none => .ok []
  | .ok (some text) =>
    match Entry.ofJson text with
    | .error cause => .error (.invalid cause)
    | .ok entries => .ok entries

namespace History

/-- **The history stored under a key**, the oldest entries beyond the limit left out; an empty one
if there is no readable history. -/
def load (storage : Storage) (key : List Char) (limit : Nat) : History where
  entries := match storedEntries storage key with
    | .ok entries => entries.take limit
    | .error _ => []
  limit := limit
  key := key
  storage := storage

/-- Save the entries: whether the storage took them, and the history with the storage afterwards. -/
def save (history : History) : Except StorageError Unit × History :=
  let (outcome, storage) := history.storage.write history.key (Entry.listJson history.entries)
  (outcome, { history with storage := storage })

/-- The history with other entries, not saved yet. -/
def withEntries (history : History) (entries : List Entry) : History :=
  { history with entries := entries }

/-- The history with an entry in front, the oldest dropped beyond the limit; not saved yet. -/
def recorded (history : History) (entry : Entry) : History :=
  history.withEntries ((entry :: history.entries).take history.limit)

/-- The history without the entry at an index, if there is one; not saved yet. -/
def removed (history : History) (index : Nat) : History :=
  history.withEntries (history.entries.eraseIdx index)

/-- The history without entries; not saved yet. -/
def cleared (history : History) : History := history.withEntries []

/-- **Record an evaluation** and save. -/
def record (history : History) (entry : Entry) : History := (history.recorded entry).save.2

/-- **Remove the entry at an index** and save; beyond the last entry only the save happens. -/
def remove (history : History) (index : Nat) : History := (history.removed index).save.2

/-- **Remove all entries** and save. -/
def clear (history : History) : History := history.cleared.save.2

/-- Saving does not change the entries. -/
@[simp] theorem entries_save (history : History) : history.save.2.entries = history.entries := rfl

/-- Recording puts an entry in front and cuts the list to the limit. -/
@[simp] theorem entries_record (history : History) (entry : Entry) :
    (history.record entry).entries = (entry :: history.entries).take history.limit := rfl

/-- Removing takes the entry at the index out. -/
@[simp] theorem entries_remove (history : History) (index : Nat) :
    (history.remove index).entries = history.entries.eraseIdx index := rfl

/-- Clearing leaves no entry. -/
@[simp] theorem entries_clear (history : History) : history.clear.entries = [] := rfl

end History

end PocketCalc
