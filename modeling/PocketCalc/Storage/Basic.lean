import PocketCalc.Storage.Folder
import PocketCalc.Text.Quoted

/-! # Storage

A storage maps keys to texts. The calculator keeps its history in one and does not know which kind
it has: memory, a folder on disk, or a storage that refuses writes or everything.

* **`Storage.read`** — the text of a key, none if it was never written.
* **`Storage.write`** — put a text under a key; the storage may change even when it reports a
  failure. -/

namespace PocketCalc

/-- The words in which a storage failure is reported; a failure of the file system has none of its
own. -/
def StorageError.message? : StorageError → Option (List Char)
  | invalidKey key => some ("clé invalide: ".toList ++ quoted key)
  | inputOutput => none
  | unavailable reason => some ("stockage navigateur: ".toList ++ reason)

/-- **A place for texts under keys.** -/
inductive Storage where
  /-- Texts in memory, under any key. -/
  | memory (texts : Table (List Char))
  /-- Files in a folder, under valid keys. -/
  | disk (folder : Folder)
  /-- Texts that can be read, and a reason why none can be written. -/
  | readOnly (texts : Table (List Char)) (reason : List Char)
  /-- A reason why nothing can be read or written. -/
  | broken (reason : List Char)
  deriving DecidableEq, Repr

namespace Storage

/-- **The text under a key**, if there is one. -/
def read (storage : Storage) (key : List Char) : Except StorageError (Option (List Char)) :=
  match storage with
  | memory texts => .ok (texts.get? key)
  | disk folder => folder.read key
  | readOnly texts _ => .ok (texts.get? key)
  | broken reason => .error (.unavailable reason)

/-- **Write a text under a key**: whether it was written, and the storage afterwards. -/
def write (storage : Storage) (key content : List Char) : Except StorageError Unit × Storage :=
  match storage with
  | memory texts => (.ok (), memory (texts.put key content))
  | disk folder =>
    let (outcome, next) := folder.write key content
    (outcome, disk next)
  | readOnly texts reason => (.error (.unavailable reason), readOnly texts reason)
  | broken reason => (.error (.unavailable reason), broken reason)

/-- Memory gives back what was written. -/
theorem read_write_memory (texts : Table (List Char)) (key content : List Char) :
    ((memory texts).write key content).2.read key = .ok (some content) := by
  simp [write, read]

end Storage

end PocketCalc
