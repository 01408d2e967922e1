import PocketCalc.Proofs.Calculator.Run
import PocketCalc.Proofs.History.Entry
import PocketCalc.Proofs.Storage.Writing

/-! # The history survives a restart

What is in memory is what a restart would load. At the start this holds because nothing was saved
since the history was loaded, and every later change saves all entries, which are within the limit
and are read back as they were.

* **`History.Stored`** — a history that a restart finds again.
* **`History.stored_load`**, **`History.stored_save`** — after loading and after every save.
* **`Calculator.Stored.changes`** — every change of a calculator keeps its history stored.
* **`entries_start_run`** — after any run, a restart finds the entries that are there. -/

namespace PocketCalc

/-! ## The stored history -/

namespace History

/-- **A history that a restart finds again.** -/
structure Stored (history : History) : Prop where
  /-- Saving does not fail. -/
  takes : history.storage.Takes history.key
  /-- The entries are within the limit. -/
  bounded : history.entries.length ≤ history.limit
  /-- What would be loaded is what is there. -/
  found : (load history.storage history.key history.limit).entries = history.entries

/-- What was loaded can be loaded again. -/
theorem stored_load {storage : Storage} {key : List Char} (takes : storage.Takes key)
    (limit : Nat) : (load storage key limit).Stored where
  takes := takes
  bounded := by
    unfold load
    split
    · exact List.length_take_le limit _
    · exact Nat.zero_le limit
  found := rfl

/-- **A saved history is found again**, if it is within the limit. -/
theorem stored_save {history : History} (takes : history.storage.Takes history.key)
    (bounded : history.entries.length ≤ history.limit) : history.save.2.Stored where
  takes := takes.write _
  bounded := bounded
  found := by
    have read : storedEntries history.save.2.storage history.key = .ok history.entries := by
      have written := takes.read_write (Entry.listJson history.entries)
      simp only [storedEntries, save, written, Entry.ofJson_listJson]
    -- What is read is cut to the limit, which it has already.
    have kept : history.entries.take history.limit = history.entries :=
      List.take_of_length_le bounded
    change (load history.save.2.storage history.key history.limit).entries = history.entries
    simp only [load, read, kept]

namespace Stored

variable {history : History}

/-- Recording keeps the history stored: the oldest entries beyond the limit are gone from both. -/
theorem record (stored : history.Stored) (entry : Entry) : (history.record entry).Stored :=
  stored_save stored.takes (List.length_take_le history.limit _)

/-- Removing keeps the history stored. -/
theorem remove (stored : history.Stored) (index : Nat) : (history.remove index).Stored := by
  have fewer := (List.eraseIdx_sublist history.entries index).length_le
  exact stored_save stored.takes (Nat.le_trans fewer stored.bounded)

/-- Clearing keeps the history stored. -/
theorem clear (stored : history.Stored) : history.clear.Stored :=
  stored_save stored.takes (Nat.zero_le history.limit)

end Stored

end History

/-! ## Runs -/

namespace Calculator

/-- **A calculator whose history a restart with these settings finds again.** -/
structure Stored (settings : Settings) (calculator : Calculator) : Prop where
  /-- The history is stored. -/
  history : calculator.history.Stored
  /-- The history is stored under the key of the settings. -/
  key : calculator.history.key = settings.historyKey
  /-- The history is bounded as the settings say. -/
  limit : calculator.history.limit = settings.maxEntries

variable {settings : Settings} {calculator : Calculator}

/-- A restart finds the entries of such a calculator. -/
theorem Stored.entries_start (stored : calculator.Stored settings) :
    (start settings calculator.history.storage).history.entries = calculator.history.entries := by
  have found := stored.history.found
  rwa [stored.key, stored.limit] at found

/-- **Every change keeps the history stored.** -/
theorem Stored.changes (stored : calculator.Stored settings) {now : Timestamp} {next : Calculator}
    (change : Changes now calculator next) : next.Stored settings := by
  obtain ⟨history, key, limit⟩ := stored
  -- Only three changes touch the history, and each of them saves it.
  cases change with
  | kept => exact ⟨history, key, limit⟩
  | edited edit => exact ⟨history, key, limit⟩
  | settled found => exact ⟨history.record _, key, limit⟩
  | reloaded member room => exact ⟨history, key, limit⟩
  | removed index => exact ⟨history.remove index, key, limit⟩
  | cleared => exact ⟨history.clear, key, limit⟩

/-- A calculator that starts has its history stored. -/
theorem stored_start {storage : Storage} (takes : storage.Takes settings.historyKey) :
    (start settings storage).Stored settings where
  history := History.stored_load takes settings.maxEntries
  key := rfl
  limit := rfl

/-- A run keeps the history stored. -/
theorem Stored.run (stored : calculator.Stored settings)
    (steps : List (Timestamp × CalculatorOperation)) : (calculator.run steps).Stored settings :=
  run_induction (fun change stored => stored.changes change) stored steps

end Calculator

/-- **A restart loses and invents nothing.** Whatever is stored under the key at the start, as long
as the storage takes the texts of the key, and whatever is then done: a calculator that starts with
the same settings on the storage reached has the entries that the running one has. -/
theorem entries_start_run (settings : Settings) {storage : Storage}
    (takes : storage.Takes settings.historyKey)
    (steps : List (Timestamp × CalculatorOperation)) :
    let reached := (Calculator.start settings storage).run steps
    (Calculator.start settings reached.history.storage).history.entries =
      reached.history.entries :=
  ((Calculator.stored_start takes).run steps).entries_start

/-- An entry with a quotation mark and a control character survives on disk, behind a new one. -/
theorem entries_start_run_of_quoted :
    let moment : Timestamp :=
      ⟨⟨2016, 12, 31, by decide, by decide⟩, 23, 59, 60, 500000000, by decide⟩
    let quoted : Entry := ⟨['"', '\\', '×', Char.ofNat 1], ['2'], moment⟩
    let files : Table Node :=
      [(fileName Settings.standard.historyKey, .text (Entry.listJson [quoted]))]
    let steps : List (Timestamp × CalculatorOperation) :=
      [(moment, .command (.symbol '7')), (moment, .command .evaluate)]
    let reached := (Calculator.start Settings.standard (.disk (.present files))).run steps
    reached.history.entries = [⟨['7'], ['7'], moment⟩, quoted] ∧
      (Calculator.start Settings.standard reached.history.storage).history.entries =
        reached.history.entries := by
  intro moment quoted files steps
  have takes : (Storage.disk (.present files)).Takes Settings.standard.historyKey :=
    Storage.takes_disk_iff.mpr
      { valid := by decide +kernel
        fits := by decide +kernel
        clear := ⟨files, rfl, by decide +kernel, by decide +kernel⟩ }
  exact ⟨by decide +kernel, entries_start_run Settings.standard takes steps⟩

end PocketCalc
