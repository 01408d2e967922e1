import PocketCalc.Storage.Table
import PocketCalc.Text.Bytes

/-! # The storage folder

On disk every key has its own file in one folder. A text is written in steps: the folder is created,
the text goes into a temporary file, and that file is renamed. The rename is the only step that
touches the key's own file, so a write that fails on the way leaves the old text in place. Each step
may be refused by what is in the folder, or by the file system itself.

* **`validKey`** — keys that make a harmless file name.
* **`FileStep`** — one step of a write, with the names that it touches.
* **`Folder.read`, `Folder.write`** — the text of a key, and writing it step by step.
* **`dataFolder?`** — the path of the folder, if the machine offers a place for it. -/

namespace PocketCalc

/-- A character that keys on disk may have. -/
def isKeyChar (c : Char) : Bool := c.isAlphanum || c == '_' || c == '-'

/-- **A key that can be a file name**: letters, digits, underscores and hyphens, at least one. -/
def validKey (key : List Char) : Bool := !key.isEmpty && key.all isKeyChar

/-- The file that holds the text of a key. -/
def fileName (key : List Char) : List Char := key ++ ['.', 'j', 's', 'o', 'n']

/-- The file that a text is written to before it is renamed. -/
def temporaryName (key : List Char) : List Char := fileName key ++ ['-']

/-- **What a name in a folder stands for.** -/
inductive Node where
  /-- A file that holds text. -/
  | text (content : List Char)
  /-- A file whose bytes are no text. -/
  | binary
  /-- A folder. -/
  | folder
  deriving DecidableEq, Repr

/-- **The place of the storage folder**, and what is there. -/
inductive Folder where
  /-- Nothing is there yet. -/
  | missing
  /-- A file is there, so no folder can be. -/
  | blocked
  /-- The folder is there, with these files. -/
  | present (nodes : Table Node)
  deriving DecidableEq, Repr

/-- The longest file name, in bytes of UTF-8. -/
def longestName : Nat := 255

/-- The longest path, in bytes of UTF-8. A name that is longer is refused even where no folder is.
-/
def longestPath : Nat := 4095

/-- A name that the file system takes. -/
def fitsName (name : List Char) : Bool := byteCount name ≤ longestName

/-! ## Steps of a write -/

/-- **A step on the file system.** -/
inductive FileStep where
  /-- Make sure that the folder is there. -/
  | createFolder
  /-- Write a text to a file, in place of what it held. -/
  | writeFile (name content : List Char)
  /-- Give a file another name, in place of the file that had it. -/
  | rename (source target : List Char)
  deriving DecidableEq, Repr

namespace FileStep

/-- The names in the folder that a step may change. -/
def touches : FileStep → List (List Char)
  | createFolder => []
  | writeFile name _ => [name]
  | rename source target => [source, target]

/-- The folder after a step, unless what is there makes the step fail. -/
def run : FileStep → Folder → Option Folder
  | createFolder, .missing => some (.present [])
  | createFolder, .present nodes => some (.present nodes)
  | createFolder, .blocked => none
  | writeFile name content, .present nodes =>
    if fitsName name && nodes.get? name != some .folder then
      some (.present (nodes.put name (.text content)))
    else none
  | rename source target, .present nodes =>
    match nodes.get? source with
    | none => none
    | some moved =>
      if fitsName target && nodes.get? target != some .folder then
        some (.present ((nodes.remove source).put target moved))
      else none
  | _, _ => none

end FileStep

/-- **How the file system treats a step.** -/
inductive Treatment where
  /-- The step is carried out. -/
  | obey
  /-- The step fails and changes nothing. -/
  | fail
  /-- A file is written in part: the step fails and leaves this behind. -/
  | failLeaving (node : Node)
  deriving DecidableEq, Repr

/-- What a step that fails in the middle leaves: only a file being written can be left in part. -/
def FileStep.leave (node : Node) : FileStep → Folder → Folder
  | .writeFile name _, .present nodes =>
    if fitsName name && nodes.get? name != some .folder then .present (nodes.put name node)
    else .present nodes
  | _, folder => folder

/-- **Carry out steps** until one fails. The treatments say what the file system does to each step;
where they end it obeys. The answer says whether all steps succeeded. -/
def runSteps (treatments : List Treatment) : List FileStep → Folder → Bool × Folder
  | [], folder => (true, folder)
  | step :: rest, folder =>
    match treatments.headD .obey with
    | .fail => (false, folder)
    | .failLeaving node => (false, step.leave node folder)
    | .obey =>
      match step.run folder with
      | none => (false, folder)
      | some next => runSteps (treatments.drop 1) rest next

/-- The steps that write the text of a key. -/
def writeSteps (key content : List Char) : List FileStep :=
  [.createFolder, .writeFile (temporaryName key) content,
    .rename (temporaryName key) (fileName key)]

/-! ## Reading and writing a key -/

/-- **Why a storage does not answer.** -/
inductive StorageError where
  /-- The key cannot be a file name. -/
  | invalidKey (key : List Char)
  /-- The file system refused. -/
  | inputOutput
  /-- The storage is out of order. -/
  | unavailable (reason : List Char)
  deriving DecidableEq, Repr

namespace Folder

/-- The text in a file; none if there is no such file. -/
def readFile (folder : Folder) (name : List Char) : Except StorageError (Option (List Char)) :=
  match folder with
  | missing => if byteCount name ≤ longestPath then .ok none else .error .inputOutput
  | blocked => .error .inputOutput
  | present nodes =>
    if fitsName name then
      match nodes.get? name with
      | none => .ok none
      | some (.text content) => .ok (some content)
      | some _ => .error .inputOutput
    else .error .inputOutput

/-- **The text of a key**; none if it was never written. -/
def read (folder : Folder) (key : List Char) : Except StorageError (Option (List Char)) :=
  if validKey key then folder.readFile (fileName key) else .error (.invalidKey key)

/-- **Write the text of a key** while the file system treats the steps in the given way. -/
def writeTreated (treatments : List Treatment) (folder : Folder) (key content : List Char) :
    Except StorageError Unit × Folder :=
  if validKey key then
    match runSteps treatments (writeSteps key content) folder with
    | (true, next) => (.ok (), next)
    | (false, next) => (.error .inputOutput, next)
  else (.error (.invalidKey key), folder)

/-- Write the text of a key on a file system that obeys. -/
def write (folder : Folder) (key content : List Char) : Except StorageError Unit × Folder :=
  folder.writeTreated [] key content

end Folder

/-! ## The path of the folder -/

/-- A path that starts at the root. -/
def isAbsolute (path : List Char) : Bool := path.head? == some '/'

/-- A name inside a folder. -/
def joinPath (folder name : List Char) : List Char :=
  if folder.isEmpty || folder.getLast? == some '/' then folder ++ name else folder ++ '/' :: name

/-- **The folder of the program** among the user's data: inside the data folder that is set, if its
path is absolute, and else inside the usual one in the home folder. -/
def dataFolder? (data home : Option (List Char)) : Option (List Char) :=
  let usual := (home.filter fun path => !path.isEmpty).map
    fun path => joinPath path ".local/share".toList
  ((data.filter isAbsolute).or usual).map fun folder => joinPath folder "calculette".toList

/-- **There is no place for the folder** exactly if no absolute path is set for the user's data and
no home folder is known. -/
theorem dataFolder?_eq_none_iff {data home : Option (List Char)} :
    dataFolder? data home = none ↔
      (∀ path, data = some path → isAbsolute path = false) ∧
        ∀ path, home = some path → path = [] := by
  simp [dataFolder?, Option.filter_eq_none_iff]

end PocketCalc
