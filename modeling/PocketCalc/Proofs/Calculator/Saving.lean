import PocketCalc.Proofs.Calculator.Frame
import PocketCalc.Proofs.Calculator.Restart

/-! # Settings that keep the history

Settings may name any key that is not blank for the history, but the storage on disk takes only keys
that can be file names. With any other key every save fails, the entries live no longer than the
calculator, and nothing shows that: a restart always finds what was there at the first start.

* **`Settings.bounded_of_ofJson`** — settings that were read are within the bounds.
* **`Folder.Healthy`**, **`Folder.takes_iff_of_healthy`** — a folder in good order, and its keys.
* **`KeepsHistory`** — every change of the history is stored and survives a restart.
* **`Calculator.Unsaved`** — where no save can succeed, the stored text stays as it was.
* **`keepsHistory_iff_of_ofJson`** — which settings keep the history on disk. -/

namespace PocketCalc

/-! ## Settings -/

namespace Settings

variable {settings : Settings}

/-- **Settings that were read are within the bounds.** -/
theorem bounded_of_ofJson {text : List Char} (accepted : ofJson text = .ok settings) :
    settings.bounded = settings := by
  unfold ofJson at accepted
  cases read : Json.readDocument
      (Json.readRecord fields Draft.blank fun draft => some draft.settings) text with
  | error fault =>
    rw [read] at accepted
    cases accepted
  | ok raw =>
    rw [read] at accepted
    cases accepted
    exact bounded_bounded raw

/-- A bound is at least one. -/
theorem clamp_pos (bound : Nat) : 0 < clamp bound := Nat.le_max_left 1 _

/-- There is room for a character. -/
theorem maxLength_pos (bounded : settings.bounded = settings) : 0 < settings.maxLength := by
  rw [← bounded]
  exact clamp_pos settings.maxLength

/-- There is room for an entry. -/
theorem maxEntries_pos (bounded : settings.bounded = settings) : 0 < settings.maxEntries := by
  rw [← bounded]
  exact clamp_pos settings.maxEntries

/-- The key of the history is not empty. -/
theorem historyKey_ne_nil (bounded : settings.bounded = settings) : settings.historyKey ≠ [] := by
  intro empty
  have replaced : settings.bounded.historyKey = standard.historyKey := by
    rw [Settings.bounded, empty]
    rfl
  rw [bounded, empty] at replaced
  exact absurd replaced (by decide)

end Settings

/-! ## Keys -/

/-- A key is valid if it is there and all its characters are those of keys. -/
theorem validKey_iff {key : List Char} :
    validKey key = true ↔ key ≠ [] ∧ ∀ c ∈ key, isKeyChar c = true := by
  simp [validKey]

/-- The characters of keys are ASCII characters. -/
theorem toNat_lt_of_isKeyChar {c : Char} (known : isKeyChar c = true) : c.toNat < 128 := by
  rw [isKeyChar, Bool.or_eq_true, Bool.or_eq_true, beq_iff_eq, beq_iff_eq] at known
  rcases known with (alphanumeric | rfl) | rfl
  · exact toNat_lt_of_isAlphanum alphanumeric
  · decide
  · decide

/-- The file system takes the names of a key of at most 249 characters. -/
theorem fitsName_temporaryName_iff {key : List Char} (known : ∀ c ∈ key, isKeyChar c = true) :
    fitsName (temporaryName key) = true ↔ key.length ≤ 249 := by
  have bytes : byteCount key = key.length :=
    byteCount_eq_length fun c member => toNat_lt_of_isKeyChar (known c member)
  have added : byteCount ['.', 'j', 's', 'o', 'n'] + byteCount ['-'] = 6 := by decide
  rw [fitsName, temporaryName, fileName, byteCount_append, byteCount_append, bytes,
    decide_eq_true_eq, longestName]
  omega

namespace Folder

/-- **A folder in good order**: it is there or can be created, and there are only files in it. -/
def Healthy (folder : Folder) : Prop :=
  ∃ nodes, folder.nodes? = some nodes ∧ ∀ name, nodes.get? name ≠ some .folder

/-- **A folder in good order takes every key that can be a file name.** -/
theorem takes_iff_of_healthy {folder : Folder} (healthy : folder.Healthy) {key : List Char} :
    folder.Takes key ↔ validKey key = true ∧ fitsName (temporaryName key) = true := by
  constructor
  · exact fun takes => ⟨takes.valid, takes.fits⟩
  · rintro ⟨valid, fits⟩
    obtain ⟨nodes, found, files⟩ := healthy
    exact ⟨valid, fits, nodes, found, files _, files _⟩

end Folder

/-! ## Stored and unstored histories -/

/-- What is loaded is read from the stored text alone. -/
theorem History.entries_load (storage : Storage) (key : List Char) (limit : Nat) :
    (load storage key limit).entries =
      (((storage.text? key).bind fun text => (Entry.ofJson text).toOption).getD []).take
        limit := by
  unfold load storedEntries Storage.text?
  cases storage.read key with
  | error cause => exact List.take_nil.symm
  | ok text =>
    cases text with
    | none => rfl
    | some text =>
      cases decoded : Entry.ofJson text <;> simp [Except.toOption, decoded]

/-- **A place that keeps the history.** Whatever is done, a restart finds the entries that are
there, and every operation that changes the entries stores them under the key of the settings. -/
def KeepsHistory (settings : Settings) (storage : Storage) : Prop :=
  ∀ steps : List (Timestamp × CalculatorOperation),
    let reached := (Calculator.start settings storage).run steps
    (Calculator.start settings reached.history.storage).history.entries =
        reached.history.entries ∧
      ∀ now operation,
        let next := reached.perform now operation
        next.history.entries ≠ reached.history.entries →
          next.history.storage.text? settings.historyKey =
            some (Entry.listJson next.history.entries)

namespace Calculator

variable {settings : Settings} {calculator next : Calculator} {now : Timestamp}

/-- A change of the entries is stored where every save succeeds. -/
theorem Changes.text?_of_takes (change : Changes now calculator next)
    (takes : calculator.history.storage.Takes calculator.history.key)
    (changed : next.history.entries ≠ calculator.history.entries) :
    next.history.storage.text? calculator.history.key =
      some (Entry.listJson next.history.entries) := by
  cases change with
  | kept | edited | reloaded => exact absurd rfl changed
  | settled found => exact Storage.text?_write_of_ok (takes _)
  | removed index => exact Storage.text?_write_of_ok (takes _)
  | cleared => exact Storage.text?_write_of_ok (takes _)

/-- **Where every save succeeds, the history is kept.** -/
theorem keepsHistory_of_takes {storage : Storage} (takes : storage.Takes settings.historyKey) :
    KeepsHistory settings storage := by
  intro steps reached
  have stored : reached.Stored settings := (stored_start takes).run steps
  refine ⟨stored.entries_start, ?_⟩
  intro now operation next changed
  rw [← stored.key]
  exact (changes_perform reached now operation).text?_of_takes stored.history.takes changed

/-- **A calculator that saves to disk in vain**: under the key there is still the text of the
start. -/
structure Unsaved (key : List Char) (text : Option (List Char)) (calculator : Calculator) :
    Prop where
  /-- The history is stored under the key. -/
  own : calculator.history.key = key
  /-- The history is stored on disk. -/
  disk : ∃ folder, calculator.history.storage = .disk folder
  /-- The stored text is that of the start. -/
  text : calculator.history.storage.text? key = text

variable {key : List Char} {text : Option (List Char)}

/-- A save to disk fails under a key that is no file name, and leaves the stored text alone. -/
theorem Unsaved.save (unnamed : ¬ (validKey key = true ∧ fitsName (temporaryName key) = true))
    {history : History} (own : history.key = key)
    (disk : ∃ folder, history.storage = .disk folder) :
    (∃ folder, history.save.2.storage = .disk folder) ∧
      history.save.2.storage.text? key = history.storage.text? key := by
  obtain ⟨folder, onDisk⟩ := disk
  have failed :
      (history.storage.write history.key (Entry.listJson history.entries)).1 ≠ .ok () := by
    intro done
    rw [onDisk, own] at done
    have takes : folder.Takes key := Folder.write_eq_ok_iff.mp done
    exact unnamed ⟨takes.valid, takes.fits⟩
  refine ⟨?_, Storage.text?_write_of_failed failed key⟩
  rw [History.save, onDisk]
  exact ⟨_, rfl⟩

/-- **Every change leaves such a calculator as it is in this.** -/
theorem Unsaved.changes (unnamed : ¬ (validKey key = true ∧ fitsName (temporaryName key) = true))
    (change : Changes now calculator next) (unsaved : calculator.Unsaved key text) :
    next.Unsaved key text := by
  obtain ⟨own, disk, kept⟩ := unsaved
  have saved (history : History) (sameKey : history.key = calculator.history.key)
      (sameStorage : history.storage = calculator.history.storage) :
      (∃ folder, history.save.2.storage = .disk folder) ∧
        history.save.2.storage.text? key = text := by
    have after := save unnamed (sameKey.trans own) (sameStorage ▸ disk)
    rw [sameStorage, kept] at after
    exact after
  cases change with
  | kept | edited | reloaded => exact ⟨own, disk, kept⟩
  | @settled result found =>
    have after := saved (calculator.history.recorded ⟨calculator.buffer.text, result, now⟩) rfl rfl
    exact ⟨own, after.1, after.2⟩
  | removed index =>
    have after := saved (calculator.history.removed index) rfl rfl
    exact ⟨own, after.1, after.2⟩
  | cleared =>
    have after := saved calculator.history.cleared rfl rfl
    exact ⟨own, after.1, after.2⟩

/-- **A restart finds what was there at the start**, whatever was done, if the key is no file
name. -/
theorem entries_start_of_unnamed (folder : Folder)
    (unnamed : ¬ (validKey settings.historyKey = true ∧
      fitsName (temporaryName settings.historyKey) = true))
    (steps : List (Timestamp × CalculatorOperation)) :
    let first := start settings (.disk folder)
    (start settings (first.run steps).history.storage).history.entries =
      first.history.entries := by
  intro first
  have initially : first.Unsaved settings.historyKey
      ((Storage.disk folder).text? settings.historyKey) := ⟨rfl, ⟨folder, rfl⟩, rfl⟩
  have unsaved := run_induction (fun change => Unsaved.changes unnamed change) initially steps
  have loaded := History.entries_load (first.run steps).history.storage settings.historyKey
    settings.maxEntries
  rw [unsaved.text] at loaded
  exact loaded.trans
    (History.entries_load (.disk folder) settings.historyKey settings.maxEntries).symm

/-- A digit that is typed at the start and evaluated becomes an entry. -/
theorem entries_run_digit_ne_nil (bounded : settings.bounded = settings) (storage : Storage)
    (now : Timestamp) :
    ((start settings storage).run
      [(now, .command (.symbol '1')), (now, .command .evaluate)]).history.entries ≠ [] := by
  have typed : (start settings storage).buffer.add '1' =
      (.ok (), ⟨['1'], settings.maxLength⟩) :=
    Buffer.add_eq_ok_iff.mpr ⟨Settings.maxLength_pos bounded, rfl, rfl⟩
  have found : PocketCalc.evaluate ['1'] = .ok (some ['1']) :=
    eq_ok_of_toOption (by decide +kernel)
  have reached : (start settings storage).run
      [(now, .command (.symbol '1')), (now, .command .evaluate)] =
        ((start settings storage).withBuffer ⟨['1'], settings.maxLength⟩).settle now ['1'] := by
    have first : (start settings storage).perform now (.command (.symbol '1')) =
        (start settings storage).withBuffer ⟨['1'], settings.maxLength⟩ := by
      rw [perform, execute, typed]
      rfl
    have second : ((start settings storage).withBuffer ⟨['1'], settings.maxLength⟩).evaluate now =
        (.ok (some ['1']), ((start settings storage).withBuffer
          ⟨['1'], settings.maxLength⟩).settle now ['1']) :=
      evaluate_eq_ok_some_iff.mpr ⟨found, rfl⟩
    rw [run, List.foldl_cons, List.foldl_cons, List.foldl_nil, first, perform, execute, second]
  rw [reached]
  intro empty
  have cut := List.take_eq_nil_iff.mp empty
  rcases cut with none | nothing
  · exact absurd none (Nat.ne_of_gt (Settings.maxEntries_pos bounded))
  · cases nothing

/-- **The history is lost where the key is no file name**: either what was there at the start comes
back after it was removed, or a new entry is gone. -/
theorem not_keepsHistory_of_unnamed (bounded : settings.bounded = settings) (folder : Folder)
    (unnamed : ¬ (validKey settings.historyKey = true ∧
      fitsName (temporaryName settings.historyKey) = true)) :
    ¬ KeepsHistory settings (.disk folder) := by
  intro keeps
  have restart (steps : List (Timestamp × CalculatorOperation)) :
      (start settings (.disk folder)).history.entries =
        ((start settings (.disk folder)).run steps).history.entries :=
    (entries_start_of_unnamed folder unnamed steps).symm.trans (keeps steps).1
  let now : Timestamp := ⟨⟨2024, 2, 29, by decide, by decide⟩, 12, 30, 59, 0, by decide⟩
  -- any run ends with the entries of the start, but one run ends without any and one with some
  have nothing : (start settings (.disk folder)).history.entries = [] :=
    restart [(now, .clearHistory)]
  rw [restart [(now, .command (.symbol '1')), (now, .command .evaluate)]] at nothing
  exact entries_run_digit_ne_nil bounded (.disk folder) now nothing

end Calculator

/-! ## Accepted settings -/

/-- **Settings that are accepted keep the history on disk exactly if their key can be a file name.**
Let settings be read from a JSON text, and let the storage folder be in good order. The key is valid
if all its characters are letters, digits, underscores and hyphens. If it is, and has at most 249
characters, then every change of the history is stored under it and survives a restart; if it is
not, some is lost. -/
theorem keepsHistory_iff_of_ofJson {text : List Char} {settings : Settings}
    (accepted : Settings.ofJson text = .ok settings) {folder : Folder} (healthy : folder.Healthy) :
    (validKey settings.historyKey = true ↔ ∀ c ∈ settings.historyKey, isKeyChar c = true) ∧
      (KeepsHistory settings (.disk folder) ↔
        (∀ c ∈ settings.historyKey, isKeyChar c = true) ∧ settings.historyKey.length ≤ 249) := by
  have bounded := Settings.bounded_of_ofJson accepted
  have valid : validKey settings.historyKey = true ↔
      ∀ c ∈ settings.historyKey, isKeyChar c = true :=
    validKey_iff.trans (and_iff_right (Settings.historyKey_ne_nil bounded))
  refine ⟨valid, ?_⟩
  constructor
  · intro keeps
    have named : validKey settings.historyKey = true ∧
        fitsName (temporaryName settings.historyKey) = true :=
      Classical.byContradiction fun unnamed =>
        Calculator.not_keepsHistory_of_unnamed bounded folder unnamed keeps
    have known := valid.mp named.1
    exact ⟨known, (fitsName_temporaryName_iff known).mp named.2⟩
  · rintro ⟨known, short⟩
    have takes : folder.Takes settings.historyKey := (Folder.takes_iff_of_healthy healthy).mpr
      ⟨valid.mpr known, (fitsName_temporaryName_iff known).mpr short⟩
    exact Calculator.keepsHistory_of_takes (Storage.takes_disk_iff.mpr takes)

/-- A key of letters, a digit and a hyphen keeps the history, beside what a write has left. -/
theorem keepsHistory_iff_of_ofJson_of_hyphen :
    let text := "\x7b\"cle_historique\":\"calc-2\"\x7d".toList
    let settings : Settings := ⟨120, 50, "calc-2".toList, 700⟩
    let folder : Folder := .present [(temporaryName "calc-2".toList, .binary)]
    Settings.ofJson text = .ok settings ∧ folder.Healthy ∧
      KeepsHistory settings (.disk folder) := by
  intro text settings folder
  have accepted : Settings.ofJson text = .ok settings := by rfl
  have healthy : folder.Healthy := by
    refine ⟨_, rfl, ?_⟩
    intro name same
    rw [Table.get?] at same
    split at same <;> cases same
  have known : ∀ c ∈ settings.historyKey, isKeyChar c = true :=
    List.all_eq_true.mp (by decide +kernel)
  have short : settings.historyKey.length ≤ 249 := by decide +kernel
  exact ⟨accepted, healthy, (keepsHistory_iff_of_ofJson accepted healthy).2.mpr ⟨known, short⟩⟩

/-- **Settings may be accepted though their key keeps no history**: a blank inside a key is none of
the characters of a file name. -/
theorem exists_ofJson_not_keepsHistory :
    let text := "\x7b\"cle_historique\":\"a b\"\x7d".toList
    ∃ settings, Settings.ofJson text = .ok settings ∧ validKey settings.historyKey = false ∧
      Folder.missing.Healthy ∧ ¬ KeepsHistory settings (.disk .missing) := by
  intro text
  have accepted : Settings.ofJson text = .ok ⟨120, 50, "a b".toList, 700⟩ := by rfl
  have invalid : validKey "a b".toList = false := by decide +kernel
  have healthy : Folder.missing.Healthy := by
    refine ⟨[], rfl, ?_⟩
    intro name same
    cases same
  refine ⟨_, accepted, invalid, healthy, ?_⟩
  refine Calculator.not_keepsHistory_of_unnamed (Settings.bounded_of_ofJson accepted) .missing ?_
  rintro ⟨valid, -⟩
  rw [invalid] at valid
  cases valid

end PocketCalc
