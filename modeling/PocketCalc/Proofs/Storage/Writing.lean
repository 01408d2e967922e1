import PocketCalc.Storage.Basic

/-! # Storage that takes every text

A storage takes the texts of a key if no write under that key fails. Memory takes the texts of every
key; a folder takes those of a key whose two file names are free of folders and not too long. What
was written last is what is read, and the storage takes the next text as well.

* **`Folder.Takes`**, **`Folder.write_eq_ok_iff`** — the folders in which a write succeeds.
* **`Storage.Takes`** — no write under a key fails.
* **`Storage.takes_memory`**, **`Storage.takes_disk_iff`** — which storages do so.
* **`Storage.Takes.read_write`**, **`Storage.Takes.write`** — after a write. -/

namespace PocketCalc

/-! ## Folders -/

/-- The temporary file of a key is the file of no key. -/
theorem fileName_ne_temporaryName (key other : List Char) :
    fileName key ≠ temporaryName other := by
  intro same
  have ends := congrArg List.getLast? same
  simp [fileName, temporaryName] at ends

/-- The name of the file is shorter than that of the temporary file. -/
theorem fitsName_fileName {key : List Char} (fits : fitsName (temporaryName key) = true) :
    fitsName (fileName key) = true := by
  simp only [fitsName, temporaryName, byteCount_append, decide_eq_true_eq] at fits ⊢
  omega

namespace Folder

/-- The files in a folder; none before it is created. -/
def nodes? : Folder → Option (Table Node)
  | missing => some []
  | present nodes => some nodes
  | blocked => none

/-- **A folder that takes the texts of a key**: the key is valid, and nothing is in the way of the
two files. -/
structure Takes (folder : Folder) (key : List Char) : Prop where
  /-- The key can be a file name. -/
  valid : validKey key = true
  /-- The file system takes both names. -/
  fits : fitsName (temporaryName key) = true
  /-- There is a folder, or there can be one, and no folder inside has one of the names. -/
  clear : ∃ nodes, folder.nodes? = some nodes ∧
    nodes.get? (temporaryName key) ≠ some .folder ∧ nodes.get? (fileName key) ≠ some .folder

/-- The files after a text was written to the temporary file, and that was renamed. -/
def written (nodes : Table Node) (key content : List Char) : Table Node :=
  ((nodes.put (temporaryName key) (.text content)).remove (temporaryName key)).put (fileName key)
    (.text content)

/-- The key has its text. -/
theorem get?_written_fileName (nodes : Table Node) (key content : List Char) :
    (written nodes key content).get? (fileName key) = some (.text content) :=
  Table.get?_put_self _ _ _

/-- The temporary file is gone. -/
theorem get?_written_temporaryName (nodes : Table Node) (key content : List Char) :
    (written nodes key content).get? (temporaryName key) = none := by
  rw [written, Table.get?_put_of_ne _ _ (fileName_ne_temporaryName key key).symm,
    Table.get?_remove_self]

/-- The folder is created if it can be. -/
theorem run_createFolder (folder : Folder) :
    FileStep.createFolder.run folder = folder.nodes?.map present := by
  cases folder <;> rfl

/-- A text is written where the name stands for no folder. -/
theorem run_writeFile (nodes : Table Node) (name content : List Char) :
    (FileStep.writeFile name content).run (present nodes) =
      if fitsName name = true ∧ nodes.get? name ≠ some .folder then
        some (present (nodes.put name (.text content)))
      else none := by
  simp [FileStep.run]

/-- A file is renamed where the new name stands for no folder. -/
theorem run_rename {nodes : Table Node} {source : List Char} {moved : Node}
    (held : nodes.get? source = some moved) (target : List Char) :
    (FileStep.rename source target).run (present nodes) =
      if fitsName target = true ∧ nodes.get? target ≠ some .folder then
        some (present ((nodes.remove source).put target moved))
      else none := by
  simp [FileStep.run, held]

/-- **The steps of a write succeed** where there is a folder and nothing is in the way. -/
theorem runSteps_writeSteps {folder : Folder} {nodes : Table Node}
    (found : folder.nodes? = some nodes) (key content : List Char) :
    runSteps [] (writeSteps key content) folder =
      if fitsName (temporaryName key) = true ∧ nodes.get? (temporaryName key) ≠ some .folder then
        if nodes.get? (fileName key) ≠ some .folder then
          (true, .present (written nodes key content))
        else (false, .present (nodes.put (temporaryName key) (.text content)))
      else (false, .present nodes) := by
  have created : FileStep.createFolder.run folder = some (present nodes) := by
    rw [run_createFolder, found, Option.map_some]
  by_cases temporary : fitsName (temporaryName key) = true ∧
      nodes.get? (temporaryName key) ≠ some .folder
  · -- The text is in the temporary file, and the file of the key is still as it was.
    have held := Table.get?_put_self nodes (temporaryName key) (.text content)
    have same := Table.get?_put_of_ne nodes (.text content) (fileName_ne_temporaryName key key)
    have renamed := run_rename held (fileName key)
    rw [same] at renamed
    by_cases target : nodes.get? (fileName key) ≠ some .folder
    · rw [if_pos ⟨fitsName_fileName temporary.1, target⟩] at renamed
      rw [if_pos temporary, if_pos target]
      simp only [writeSteps, runSteps, List.headD_nil, List.drop_nil, created, run_writeFile,
        if_pos temporary, renamed, written]
    · rw [if_neg (not_and_of_not_right _ target)] at renamed
      rw [if_pos temporary, if_neg target]
      simp only [writeSteps, runSteps, List.headD_nil, List.drop_nil, created, run_writeFile,
        if_pos temporary, renamed]
  · rw [if_neg temporary]
    simp only [writeSteps, runSteps, List.headD_nil, List.drop_nil, created, run_writeFile,
      if_neg temporary]

/-- A write into a folder that takes the key. -/
theorem write_of_takes {folder : Folder} {key : List Char} (takes : folder.Takes key) :
    ∃ nodes, ∀ content,
      folder.write key content = (.ok (), .present (written nodes key content)) := by
  obtain ⟨nodes, found, temporary, target⟩ := takes.clear
  refine ⟨nodes, ?_⟩
  intro content
  rw [write, writeTreated, if_pos takes.valid, runSteps_writeSteps found, if_pos ⟨takes.fits,
    temporary⟩, if_pos target]

/-- **A write succeeds exactly where the folder takes the key.** -/
theorem write_eq_ok_iff {folder : Folder} {key content : List Char} :
    (folder.write key content).1 = .ok () ↔ folder.Takes key := by
  constructor
  · intro done
    by_cases valid : validKey key = true
    · rw [write, writeTreated, if_pos valid] at done
      cases found : folder.nodes? with
      | none =>
        rw [writeSteps, runSteps, List.headD_nil, run_createFolder, found] at done
        cases done
      | some nodes =>
        rw [runSteps_writeSteps found] at done
        by_cases temporary : fitsName (temporaryName key) = true ∧
            nodes.get? (temporaryName key) ≠ some .folder
        · rw [if_pos temporary] at done
          by_cases target : nodes.get? (fileName key) ≠ some .folder
          · exact ⟨valid, temporary.1, nodes, found, temporary.2, target⟩
          · rw [if_neg target] at done
            cases done
        · rw [if_neg temporary] at done
          cases done
    · rw [write, writeTreated, if_neg valid] at done
      cases done
  · intro takes
    obtain ⟨nodes, written⟩ := write_of_takes takes
    rw [written]

/-- A folder that takes a key takes the next text as well. -/
theorem Takes.write {folder : Folder} {key : List Char} (takes : folder.Takes key)
    (content : List Char) : (folder.write key content).2.Takes key := by
  obtain ⟨nodes, written⟩ := write_of_takes takes
  rw [written]
  exact
    { valid := takes.valid
      fits := takes.fits
      clear := ⟨_, rfl, by simp [get?_written_temporaryName], by simp [get?_written_fileName]⟩ }

/-- The text of a key is the one that was written last. -/
theorem Takes.read_write {folder : Folder} {key : List Char} (takes : folder.Takes key)
    (content : List Char) : (folder.write key content).2.read key = .ok (some content) := by
  obtain ⟨nodes, written⟩ := write_of_takes takes
  rw [written]
  simp [read, takes.valid, readFile, fitsName_fileName takes.fits, get?_written_fileName]

end Folder

/-! ## Storage of any kind -/

namespace Storage

/-- **A storage that takes every text of a key.** -/
def Takes (storage : Storage) (key : List Char) : Prop :=
  ∀ content, (storage.write key content).1 = .ok ()

/-- Memory takes every key. -/
theorem takes_memory (texts : Table (List Char)) (key : List Char) : (memory texts).Takes key :=
  fun _ => rfl

/-- **A storage on disk takes a key if its folder does.** -/
theorem takes_disk_iff {folder : Folder} {key : List Char} :
    (disk folder).Takes key ↔ folder.Takes key :=
  ⟨fun takes => Folder.write_eq_ok_iff.mp (takes []),
    fun takes _ => Folder.write_eq_ok_iff.mpr takes⟩

/-- A storage that takes a key takes the next text as well. -/
theorem Takes.write {storage : Storage} {key : List Char} (takes : storage.Takes key)
    (content : List Char) : (storage.write key content).2.Takes key := by
  cases storage with
  | memory texts => exact takes_memory _ key
  | disk folder => exact takes_disk_iff.mpr ((takes_disk_iff.mp takes).write content)
  | readOnly texts reason => cases takes []
  | broken reason => cases takes []

/-- **The text of a key is the one that was written last.** -/
theorem Takes.read_write {storage : Storage} {key : List Char} (takes : storage.Takes key)
    (content : List Char) : (storage.write key content).2.read key = .ok (some content) := by
  cases storage with
  | memory texts => exact read_write_memory texts key content
  | disk folder => exact (takes_disk_iff.mp takes).read_write content
  | readOnly texts reason => cases takes []
  | broken reason => cases takes []

end Storage

end PocketCalc
