import PocketCalc.Proofs.Storage.Writing

/-! # Writing to disk is all or nothing

Each step of a write may fail, and a file may be left half written. The text of a key is safe from
that, because it is written under another name and only the rename, which is the last step, touches
the file of the key. So the folder behaves as a map from keys to texts that takes a write completely
or not at all.

* **`StaysInside`** — names that stand for something in the folder itself.
* **`Folder.lookup`**, **`lookup_runSteps`** — steps change nothing but the names that they touch.
* **`Folder.lookup_writeTreated_of_failed`** — a write that fails touches the temporary file only.
* **`Folder.text?`**, **`Folder.ReadsAlike`** — the text of a key, and folders that agree on it.
* **`FolderRequest`**, **`Folder.answer`** — a request and what the file system does to it.
* **`lastWritten?`** — the last text of a key that was written.
* **`answer_afterAll`** — what a request does, after any requests. -/

namespace PocketCalc

/-! ## File names -/

/-- **A name that stays in its folder**: no part of it is a name of its own, and it is neither a
name of the folder nor that of the folder around it. -/
structure StaysInside (name : List Char) : Prop where
  /-- Nothing in the name separates the parts of a path. -/
  undivided : ∀ c ∈ name, c ≠ '/' ∧ c ≠ '\\'
  /-- The name is longer than `.` and `..`. -/
  proper : 2 < name.length

/-- A character of a key does not separate the parts of a path. -/
theorem ne_separator_of_isKeyChar {c : Char} (known : isKeyChar c = true) : c ≠ '/' ∧ c ≠ '\\' := by
  constructor <;> rintro rfl <;> exact absurd known (by decide)

/-- The characters of a valid key are those of keys. -/
theorem isKeyChar_of_validKey {key : List Char} (valid : validKey key = true) :
    ∀ c ∈ key, isKeyChar c = true := by
  rw [validKey, Bool.and_eq_true, List.all_eq_true] at valid
  exact valid.2

/-- The file of a valid key is in the folder. -/
theorem staysInside_fileName {key : List Char} (valid : validKey key = true) :
    StaysInside (fileName key) where
  undivided := by
    intro c member
    rcases List.mem_append.mp member with early | late
    · exact ne_separator_of_isKeyChar (isKeyChar_of_validKey valid c early)
    · simp only [List.mem_cons, List.not_mem_nil, or_false] at late
      rcases late with rfl | rfl | rfl | rfl | rfl <;> decide
  proper := by simp [fileName]

/-- So is the temporary file. -/
theorem staysInside_temporaryName {key : List Char} (valid : validKey key = true) :
    StaysInside (temporaryName key) where
  undivided := by
    intro c member
    rcases List.mem_append.mp member with early | late
    · exact (staysInside_fileName valid).undivided c early
    · rw [List.mem_singleton.mp late]
      decide
  proper := by simp [temporaryName, fileName]

/-- Keys have files of their own. -/
theorem fileName_inj {key other : List Char} : fileName key = fileName other ↔ key = other :=
  List.append_left_inj _

/-! ## Steps -/

namespace Folder

/-- **What is under a name**; nothing can be there if a file is in the place of the folder. -/
def lookup (folder : Folder) (name : List Char) : Option (Option Node) :=
  folder.nodes?.map (·.get? name)

/-- In a folder that is there, names are looked up in its table. -/
@[simp] theorem lookup_present (nodes : Table Node) (name : List Char) :
    (present nodes).lookup name = some (nodes.get? name) := rfl

end Folder

/-- A step changes nothing but the names that it touches. -/
theorem FileStep.lookup_run {step : FileStep} {folder next : Folder}
    (done : step.run folder = some next) {name : List Char} (untouched : name ∉ step.touches) :
    next.lookup name = folder.lookup name := by
  cases step with
  | createFolder =>
    rw [Folder.run_createFolder, Option.map_eq_some_iff] at done
    obtain ⟨nodes, found, rfl⟩ := done
    rw [Folder.lookup_present, Folder.lookup, found, Option.map_some]
  | writeFile target content =>
    have other : name ≠ target := by simpa [touches] using untouched
    cases folder with
    | missing | blocked => cases done
    | present nodes =>
      rw [Folder.run_writeFile] at done
      split at done
      · cases done
        rw [Folder.lookup_present, Folder.lookup_present, Table.get?_put_of_ne _ _ other]
      · cases done
  | rename source target =>
    have others : name ≠ source ∧ name ≠ target := by simpa [touches] using untouched
    cases folder with
    | missing | blocked => cases done
    | present nodes =>
      cases held : nodes.get? source with
      | none => simp [run, held] at done
      | some moved =>
        rw [Folder.run_rename held] at done
        split at done
        · cases done
          rw [Folder.lookup_present, Folder.lookup_present, Table.get?_put_of_ne _ _ others.2,
            Table.get?_remove_of_ne _ others.1]
        · cases done

/-- Nor does a step that fails in the middle. -/
theorem FileStep.lookup_leave (node : Node) (step : FileStep) (folder : Folder) {name : List Char}
    (untouched : name ∉ step.touches) :
    (step.leave node folder).lookup name = folder.lookup name := by
  cases step with
  | createFolder | rename => rfl
  | writeFile target content =>
    have other : name ≠ target := by simpa [touches] using untouched
    cases folder with
    | missing | blocked => rfl
    | present nodes =>
      rw [leave]
      split
      · rw [Folder.lookup_present, Folder.lookup_present, Table.get?_put_of_ne _ _ other]
      · rfl

/-- **Steps change nothing but the names that they touch**, whatever the file system does to
them. -/
theorem lookup_runSteps (treatments : List Treatment) (steps : List FileStep) (folder : Folder)
    {name : List Char} (untouched : ∀ step ∈ steps, name ∉ step.touches) :
    (runSteps treatments steps folder).2.lookup name = folder.lookup name := by
  induction steps generalizing treatments folder with
  | nil => rfl
  | cons step rest ih =>
    have first : name ∉ step.touches := untouched step List.mem_cons_self
    have others : ∀ later ∈ rest, name ∉ later.touches :=
      fun later member => untouched later (List.mem_cons_of_mem step member)
    unfold runSteps
    split
    · rfl
    · exact step.lookup_leave _ folder first
    · -- only a step that is carried out lets the others follow
      split
      · rfl
      · rename_i next done
        rw [ih _ next others, FileStep.lookup_run done first]

/-- Steps that all succeed are carried out as on a file system that obeys. -/
theorem runSteps_of_succeeded {treatments : List Treatment} {steps : List FileStep}
    {folder : Folder} (done : (runSteps treatments steps folder).1 = true) :
    runSteps treatments steps folder = runSteps [] steps folder := by
  induction steps generalizing treatments folder with
  | nil => rfl
  | cons step rest ih =>
    unfold runSteps at done ⊢
    split at done
    · cases done
    · cases done
    · rw [List.headD_nil]
      cases carried : step.run folder with
      | none => rfl
      | some next =>
        rw [carried] at done
        exact ih done

/-- Some steps are carried out behind others if these succeed. -/
theorem runSteps_append (treatments : List Treatment) (first rest : List FileStep)
    (folder : Folder) :
    runSteps treatments (first ++ rest) folder =
      if (runSteps treatments first folder).1 = true then
        runSteps (treatments.drop first.length) rest (runSteps treatments first folder).2
      else runSteps treatments first folder := by
  induction first generalizing treatments folder with
  | nil => simp [runSteps]
  | cons step later ih =>
    rw [List.cons_append, runSteps, runSteps]
    split
    · rfl
    · rfl
    · cases step.run folder with
      | none => rfl
      | some next => simp only [ih, List.drop_drop, List.length_cons, Nat.add_comm]

/-- A rename that fails changes nothing. -/
theorem runSteps_rename_of_failed {treatments : List Treatment} {source target : List Char}
    {folder : Folder} (failed : (runSteps treatments [.rename source target] folder).1 = false) :
    (runSteps treatments [.rename source target] folder).2 = folder := by
  unfold runSteps at failed ⊢
  split at failed
  · rfl
  · rfl
  · split at failed
    · rfl
    · cases failed

namespace Folder

/-! ## Writes -/

/-- A write under an invalid key is refused before its first step. -/
theorem writeTreated_of_invalid {key : List Char} (invalid : validKey key = false)
    (treatments : List Treatment) (folder : Folder) (content : List Char) :
    folder.writeTreated treatments key content = (.error (.invalidKey key), folder) := by
  rw [writeTreated, invalid]
  rfl

/-- A write under a valid key succeeds if its steps do. -/
theorem writeTreated_of_valid {key : List Char} (valid : validKey key = true)
    (treatments : List Treatment) (folder : Folder) (content : List Char) :
    folder.writeTreated treatments key content =
      (if (runSteps treatments (writeSteps key content) folder).1 = true then .ok ()
        else .error .inputOutput, (runSteps treatments (writeSteps key content) folder).2) := by
  rw [writeTreated, if_pos valid]
  rcases runSteps treatments (writeSteps key content) folder with ⟨succeeded, next⟩
  cases succeeded <;> rfl

variable {treatments : List Treatment} {folder : Folder} {key content : List Char}

/-- A write that succeeds is one on a file system that obeys. -/
theorem writeTreated_of_ok (done : (folder.writeTreated treatments key content).1 = .ok ()) :
    folder.writeTreated treatments key content = folder.write key content := by
  cases valid : validKey key with
  | false =>
    rw [writeTreated_of_invalid valid] at done
    cases done
  | true =>
    rw [writeTreated_of_valid valid] at done
    have succeeded : (runSteps treatments (writeSteps key content) folder).1 = true := by
      by_cases all : (runSteps treatments (writeSteps key content) folder).1 = true
      · exact all
      · rw [if_neg all] at done
        cases done
    rw [write, writeTreated_of_valid valid, writeTreated_of_valid valid,
      runSteps_of_succeeded succeeded]

/-- **A write touches only the two files of its key.** -/
theorem lookup_writeTreated (treatments : List Treatment) (folder : Folder)
    {key : List Char} (content : List Char) {name : List Char} (file : name ≠ fileName key)
    (temporary : name ≠ temporaryName key) :
    (folder.writeTreated treatments key content).2.lookup name = folder.lookup name := by
  cases valid : validKey key with
  | false => rw [writeTreated_of_invalid valid]
  | true =>
    rw [writeTreated_of_valid valid]
    refine lookup_runSteps treatments _ folder ?_
    simp [writeSteps, FileStep.touches, file, temporary]

/-- **A write that fails touches only the temporary file**, because the rename is the last step. -/
theorem lookup_writeTreated_of_failed
    (failed : (folder.writeTreated treatments key content).1 ≠ .ok ()) {name : List Char}
    (temporary : name ≠ temporaryName key) :
    (folder.writeTreated treatments key content).2.lookup name = folder.lookup name := by
  cases valid : validKey key with
  | false => rw [writeTreated_of_invalid valid]
  | true =>
    rw [writeTreated_of_valid valid] at failed ⊢
    have incomplete : ¬ (runSteps treatments (writeSteps key content) folder).1 = true :=
      fun all => failed (if_pos all)
    have parts : writeSteps key content =
        [.createFolder, .writeFile (temporaryName key) content] ++
          [.rename (temporaryName key) (fileName key)] := rfl
    have untouched : ∀ step ∈ [FileStep.createFolder, .writeFile (temporaryName key) content],
        name ∉ step.touches := by
      simp [FileStep.touches, temporary]
    have before := lookup_runSteps treatments _ folder untouched
    rw [parts, runSteps_append] at incomplete ⊢
    dsimp only
    split
    · -- the text is in the temporary file, and the rename fails
      rename_i first
      rw [if_pos first, Bool.not_eq_true] at incomplete
      rw [runSteps_rename_of_failed incomplete, before]
    · exact before

/-! ## Texts -/

/-- **The text that is read under a key**, if reading gives one. -/
def text? (folder : Folder) (key : List Char) : Option (List Char) :=
  (folder.read key).toOption.join

/-- What is read is the text. -/
theorem text?_of_read {text : Option (List Char)} (found : folder.read key = .ok text) :
    folder.text? key = text := by
  rw [text?, found]
  rfl

/-- Before the folder is created no key has a text. -/
theorem text?_missing (key : List Char) : missing.text? key = none := by
  unfold text? read readFile
  split
  · dsimp only
    split <;> rfl
  · rfl

/-- A key whose file name is too long has no text. -/
theorem text?_of_not_fits (folder : Folder) (long : fitsName (fileName key) = false) :
    folder.text? key = none := by
  cases folder with
  | missing => exact text?_missing key
  | blocked =>
    unfold text? read
    split <;> rfl
  | present nodes =>
    unfold text? read readFile
    rw [long]
    split <;> rfl

/-- Reading a key looks at nothing but its file, if the file system takes the name. -/
theorem read_of_fits (folder : Folder) (fits : fitsName (fileName key) = true) :
    folder.read key =
      if validKey key = true then
        match folder.lookup (fileName key) with
        | some none => .ok none
        | some (some (.text content)) => .ok (some content)
        | _ => .error .inputOutput
      else .error (.invalidKey key) := by
  rw [read]
  split
  · cases folder with
    | missing =>
      have short : byteCount (fileName key) ≤ longestPath :=
        Nat.le_trans (of_decide_eq_true fits) (by decide)
      rw [readFile, if_pos short]
      rfl
    | blocked => rfl
    | present nodes =>
      rw [readFile, if_pos fits, lookup_present]
      cases nodes.get? (fileName key) with
      | none => rfl
      | some node => cases node <;> rfl
  · rfl

/-- **Reading a key gives what it gave before.** The text is the same in any case. Where the file
system does not take the name of the file, there is no text; reading it is refused as soon as there
is a folder, which makes the only difference. -/
structure ReadsAlike (before after : Folder) (key : List Char) : Prop where
  /-- The key has the same text. -/
  text : after.text? key = before.text? key
  /-- Reading the key has the same answer. -/
  read : fitsName (fileName key) = true → after.read key = before.read key

/-- Folders agree on a key if they agree on its file. -/
theorem readsAlike_of_lookup {before after : Folder}
    (same : after.lookup (fileName key) = before.lookup (fileName key)) :
    before.ReadsAlike after key := by
  have read (fits : fitsName (fileName key) = true) : after.read key = before.read key := by
    rw [read_of_fits after fits, read_of_fits before fits, same]
  refine ⟨?_, read⟩
  cases fits : fitsName (fileName key) with
  | false => rw [text?_of_not_fits after fits, text?_of_not_fits before fits]
  | true => rw [text?, read fits, text?]

/-- **A write changes the text of no other key.** -/
theorem readsAlike_writeTreated (treatments : List Treatment) (folder : Folder)
    {key other : List Char} (content : List Char) (different : other ≠ key) :
    folder.ReadsAlike (folder.writeTreated treatments key content).2 other :=
  readsAlike_of_lookup (lookup_writeTreated treatments folder content
    (mt fileName_inj.mp different) (fileName_ne_temporaryName other key))

/-- **A write that fails changes no text.** -/
theorem readsAlike_writeTreated_of_failed
    (failed : (folder.writeTreated treatments key content).1 ≠ .ok ()) (other : List Char) :
    folder.ReadsAlike (folder.writeTreated treatments key content).2 other :=
  readsAlike_of_lookup (lookup_writeTreated_of_failed failed (fileName_ne_temporaryName other key))

/-- **A write that succeeds gives its key the new text.** -/
theorem read_writeTreated_of_ok (done : (folder.writeTreated treatments key content).1 = .ok ()) :
    (folder.writeTreated treatments key content).2.read key = .ok (some content) := by
  have obeyed := writeTreated_of_ok done
  rw [obeyed] at done ⊢
  exact (write_eq_ok_iff.mp done).read_write content

end Folder

/-! ## Requests -/

/-- **A request to the storage on disk**, and what the file system does to it. -/
inductive FolderRequest where
  /-- Read the text of a key; the file system may refuse. -/
  | read (key : List Char) (refused : Bool)
  /-- Write the text of a key; the file system treats the steps in the given way. -/
  | write (key content : List Char) (treatments : List Treatment)
  deriving DecidableEq, Repr

/-- **The answer to a request**: a text or none if a key is read, and no text if one is written. -/
abbrev StorageAnswer := Except StorageError (Option (List Char))

/-- A request with its answer. -/
abbrev Exchange := FolderRequest × StorageAnswer

namespace FolderRequest

/-- The key that a request is about. -/
def key : FolderRequest → List Char
  | read key _ => key
  | write key _ _ => key

/-- The names of the files that a request opens, creates or replaces. -/
def touches : FolderRequest → List (List Char)
  | read key _ => if validKey key then [fileName key] else []
  | write key content _ =>
    if validKey key then (writeSteps key content).flatMap FileStep.touches else []

/-- With an invalid key no file is touched. -/
theorem touches_of_invalid {request : FolderRequest} (invalid : validKey request.key = false) :
    request.touches = [] := by
  cases request with
  | read key refused | write key content treatments =>
    rw [FolderRequest.key] at invalid
    rw [touches, invalid]
    rfl

/-- **Requests stay in the folder.** -/
theorem staysInside {request : FolderRequest} {name : List Char}
    (touched : name ∈ request.touches) : StaysInside name := by
  cases request with
  | read key refused =>
    rw [touches] at touched
    split at touched
    · rename_i valid
      rw [List.mem_singleton.mp touched]
      exact staysInside_fileName valid
    · cases touched
  | write key content treatments =>
    rw [touches] at touched
    split at touched
    · rename_i valid
      simp only [writeSteps, List.flatMap_cons, List.flatMap_nil, FileStep.touches, List.nil_append,
        List.append_nil, List.cons_append, List.mem_cons, List.not_mem_nil, or_false] at touched
      rcases touched with rfl | rfl | rfl
      · exact staysInside_temporaryName valid
      · exact staysInside_temporaryName valid
      · exact staysInside_fileName valid
    · cases touched

end FolderRequest

/-- **The folder's answer to a request**, and the folder afterwards. -/
def Folder.answer (folder : Folder) : FolderRequest → StorageAnswer × Folder
  | .read key refused =>
    (if refused && validKey key then .error .inputOutput else folder.read key, folder)
  | .write key content treatments =>
    let (outcome, next) := folder.writeTreated treatments key content
    (outcome.map fun () => none, next)

/-- The answer of a storage of any kind that never refuses what it can do. -/
def Storage.answer (storage : Storage) : FolderRequest → StorageAnswer × Storage
  | .read key _ => (storage.read key, storage)
  | .write key content _ =>
    let (outcome, next) := storage.write key content
    (outcome.map fun () => none, next)

/-- **The requests with their answers**, in the order in which they are made. -/
def transcript {Place : Type} (answer : Place → FolderRequest → StorageAnswer × Place)
    (place : Place) : List FolderRequest → List Exchange
  | [] => []
  | request :: rest =>
    (request, (answer place request).1) :: transcript answer (answer place request).2 rest

/-- The folder after several requests. -/
def Folder.afterAll (folder : Folder) (requests : List FolderRequest) : Folder :=
  requests.foldl (fun reached request => (reached.answer request).2) folder

/-- The text that a key is given by a request: that of a write of this key that succeeded. -/
def wrote? (key : List Char) : Exchange → Option (List Char)
  | (.write written content _, .ok _) => if written = key then some content else none
  | _ => none

/-- **The last text of a key that was written.** -/
def lastWritten? (exchanges : List Exchange) (key : List Char) : Option (List Char) :=
  exchanges.reverse.findSome? (wrote? key)

namespace Folder

variable {folder : Folder}

/-- A request with an invalid key is refused for that reason, and nothing happens. -/
theorem answer_of_invalid (folder : Folder) {request : FolderRequest}
    (invalid : validKey request.key = false) :
    folder.answer request = (.error (.invalidKey request.key), folder) := by
  cases request with
  | read key refused =>
    rw [FolderRequest.key] at invalid ⊢
    simp only [answer, read, invalid, Bool.and_false, Bool.false_eq_true, if_false]
  | write key content treatments =>
    rw [FolderRequest.key] at invalid ⊢
    rw [answer, writeTreated_of_invalid invalid]
    rfl

/-- A write is answered as it ends. -/
theorem answer_write_eq_ok_iff {key content : List Char} {treatments : List Treatment}
    {text : Option (List Char)} :
    (folder.answer (.write key content treatments)).1 = .ok text ↔
      (folder.writeTreated treatments key content).1 = .ok () ∧ text = none := by
  simp only [answer]
  cases (folder.writeTreated treatments key content).1 with
  | error cause => simp [Except.map]
  | ok done => simp [Except.map, eq_comm]

/-- What a read that succeeds answers is the text of its key. -/
theorem text?_of_answer_read {key : List Char} {refused : Bool} {text : Option (List Char)}
    (succeeded : (folder.answer (.read key refused)).1 = .ok text) : folder.text? key = text := by
  rw [answer] at succeeded
  dsimp only at succeeded
  split at succeeded
  · cases succeeded
  · exact text?_of_read succeeded

/-- **A request changes nothing but the files that it touches.** -/
theorem lookup_answer (folder : Folder) {request : FolderRequest} {name : List Char}
    (untouched : name ∉ request.touches) :
    (folder.answer request).2.lookup name = folder.lookup name := by
  cases request with
  | read key refused => rfl
  | write key content treatments =>
    cases valid : validKey key with
    | false =>
      have refused : folder.answer (.write key content treatments) =
          (.error (.invalidKey key), folder) := answer_of_invalid folder valid
      rw [refused]
    | true =>
      have names : name ≠ temporaryName key ∧ name ≠ fileName key := by
        simpa [FolderRequest.touches, valid, writeSteps, FileStep.touches] using untouched
      exact lookup_writeTreated treatments folder content names.2 names.1

/-- **A request that fails changes no text.** -/
theorem readsAlike_answer_of_error {request : FolderRequest} {cause : StorageError}
    (failed : (folder.answer request).1 = .error cause) (other : List Char) :
    folder.ReadsAlike (folder.answer request).2 other := by
  cases request with
  | read key refused => exact ⟨rfl, fun _ => rfl⟩
  | write key content treatments =>
    refine readsAlike_writeTreated_of_failed ?_ other
    intro done
    rw [answer_write_eq_ok_iff.mpr ⟨done, rfl⟩] at failed
    cases failed

/-- **What a request does to the text of a key**: a write of the key that succeeds replaces it, and
nothing else does. -/
theorem text?_answer (folder : Folder) (request : FolderRequest) (key : List Char) :
    (folder.answer request).2.text? key =
      (wrote? key (request, (folder.answer request).1)).or (folder.text? key) := by
  cases answered : (folder.answer request).1 with
  | error cause =>
    have unwritten : wrote? key (request, .error cause) = none := by
      cases request <;> rfl
    rw [(readsAlike_answer_of_error answered key).text, unwritten, Option.none_or]
  | ok text =>
    cases request with
    | read known refused => rfl
    | write written content treatments =>
      have done := (answer_write_eq_ok_iff.mp answered).1
      by_cases same : written = key
      · subst same
        rw [wrote?, if_pos rfl, Option.some_or]
        exact text?_of_read (read_writeTreated_of_ok done)
      · rw [wrote?, if_neg same, Option.none_or]
        exact (readsAlike_writeTreated treatments folder content (Ne.symm same)).text

/-- **The text of a key is the last that was written**, or the one at the start. -/
theorem text?_afterAll (folder : Folder) (requests : List FolderRequest) (key : List Char) :
    (folder.afterAll requests).text? key =
      (lastWritten? (transcript answer folder requests) key).or (folder.text? key) := by
  induction requests generalizing folder with
  | nil => rfl
  | cons request rest ih =>
    -- the first request counts only where no later one writes the key
    have last : lastWritten? (transcript answer folder (request :: rest)) key =
        (lastWritten? (transcript answer (folder.answer request).2 rest) key).or
          (wrote? key (request, (folder.answer request).1)) := by
      rw [lastWritten?, transcript, List.reverse_cons, List.findSome?_append]
      simp [lastWritten?]
    rw [last, Option.or_assoc, ← text?_answer]
    exact ih (folder.answer request).2

/-! ## Memory -/

/-- **A memory with the texts of a folder.** -/
def SameTexts (folder : Folder) (texts : Table (List Char)) : Prop :=
  ∀ key, validKey key = true → texts.get? key = folder.text? key

/-- A memory with the texts of a folder gives the answer that the folder gives, if that does not
fail, and has its texts afterwards. -/
theorem SameTexts.answer {texts : Table (List Char)} (same : folder.SameTexts texts)
    {request : FolderRequest} {text : Option (List Char)}
    (answered : (folder.answer request).1 = .ok text) :
    ∃ next, (Storage.memory texts).answer request = (.ok text, .memory next) ∧
      (folder.answer request).2.SameTexts next := by
  cases request with
  | read key refused =>
    -- memory would answer an invalid key as well, but here there is an answer already
    have valid : validKey key = true := by
      by_cases valid : validKey key = true
      · exact valid
      · rw [answer_of_invalid folder (Bool.not_eq_true _ ▸ valid)] at answered
        cases answered
    refine ⟨texts, ?_, same⟩
    rw [Storage.answer, Storage.read, same key valid, text?_of_answer_read answered]
  | write key content treatments =>
    obtain ⟨done, rfl⟩ := answer_write_eq_ok_iff.mp answered
    refine ⟨texts.put key content, rfl, ?_⟩
    intro other valid
    rw [text?_answer, answered, wrote?]
    by_cases here : key = other
    · rw [if_pos here, ← here, Table.get?_put_self, Option.some_or]
    · rw [if_neg here, Table.get?_put_of_ne _ _ (Ne.symm here), Option.none_or, same other valid]

/-- **Without failures a folder answers as memory does.** -/
theorem SameTexts.transcript_eq {texts : Table (List Char)} (same : folder.SameTexts texts)
    {requests : List FolderRequest}
    (succeeded : ∀ exchange ∈ transcript Folder.answer folder requests,
      ∃ text, exchange.2 = .ok text) :
    transcript Storage.answer (.memory texts) requests =
      transcript Folder.answer folder requests := by
  induction requests generalizing folder texts with
  | nil => rfl
  | cons request rest ih =>
    obtain ⟨text, answered⟩ := succeeded _ List.mem_cons_self
    obtain ⟨next, answers, after⟩ := same.answer answered
    have others := ih after fun exchange member =>
      succeeded exchange (List.mem_cons_of_mem _ member)
    dsimp only at answered
    rw [transcript, transcript, answers, answered, others]

end Folder

/-! ## Any requests -/

/-- **The storage on disk is a map that takes a write completely or not at all.** Let any requests
be made of a folder with any files in it, while the file system refuses any of the reads and fails
at any step of the writes, also in the middle of a file. Then one more request, in the folder
reached, does the following.

* With an invalid key it is refused for that reason, and nothing is touched.
* A write on a file system that obeys succeeds exactly if nothing is in the way of its files.
* A write that succeeds gives its key the text, and reading any other key gives what it gave before.
* A request that fails leaves what is read under every key as it was.
* A read that succeeds gives the last text of the key that was written, or the one at the start.
* The files that are touched are in the folder, and under any other name there is what there was.

If no request fails, the answers are those of a memory that holds the same texts. -/
theorem answer_afterAll (folder : Folder) (requests : List FolderRequest)
    (request : FolderRequest) :
    let reached := folder.afterAll requests
    let answer := (reached.answer request).1
    let next := (reached.answer request).2
    (validKey request.key = false →
      answer = .error (.invalidKey request.key) ∧ next = reached ∧ request.touches = []) ∧
    (∀ key content, (reached.answer (.write key content [])).1 = .ok none ↔ reached.Takes key) ∧
    (∀ key content treatments, request = .write key content treatments → answer = .ok none →
      next.read key = .ok (some content) ∧ ∀ other ≠ key, reached.ReadsAlike next other) ∧
    (∀ cause, answer = .error cause → ∀ key, reached.ReadsAlike next key) ∧
    (∀ key refused text, request = .read key refused → answer = .ok text → text =
      (lastWritten? (transcript Folder.answer folder requests) key).or (folder.text? key)) ∧
    (∀ name ∈ request.touches, StaysInside name) ∧
    (∀ name ∉ request.touches, next.lookup name = reached.lookup name) ∧
    ∀ texts, folder.SameTexts texts →
      (∀ exchange ∈ transcript Folder.answer folder requests, ∃ text, exchange.2 = .ok text) →
        transcript Storage.answer (.memory texts) requests =
          transcript Folder.answer folder requests := by
  intro reached answer next
  refine ⟨?invalid, ?taken, ?written, ?failed, ?read, ?inside, ?elsewhere, ?memory⟩
  case invalid =>
    intro invalid
    have refused := Folder.answer_of_invalid reached invalid
    exact ⟨congrArg Prod.fst refused, congrArg Prod.snd refused,
      FolderRequest.touches_of_invalid invalid⟩
  case taken =>
    intro key content
    rw [Folder.answer_write_eq_ok_iff, and_iff_left rfl]
    exact Folder.write_eq_ok_iff
  case written =>
    rintro key content treatments rfl succeeded
    have done := (Folder.answer_write_eq_ok_iff.mp succeeded).1
    exact ⟨Folder.read_writeTreated_of_ok done, fun other different =>
      Folder.readsAlike_writeTreated treatments reached content different⟩
  case failed =>
    intro cause failed
    exact Folder.readsAlike_answer_of_error failed
  case read =>
    rintro key refused text rfl succeeded
    rw [← Folder.text?_afterAll]
    exact (Folder.text?_of_answer_read succeeded).symm
  case inside => exact fun name touched => FolderRequest.staysInside touched
  case elsewhere => exact fun name untouched => reached.lookup_answer untouched
  case memory => exact fun texts same succeeded => same.transcript_eq succeeded

/-- A text survives a write that is cut off in the middle, and what that write leaves does not stand
in the way of the next one. -/
theorem answer_afterAll_of_torn_write :
    let first : FolderRequest := .write ['a'] ['1'] []
    let torn : FolderRequest := .write ['a'] ['2', '3'] [.obey, .failLeaving (.text ['2'])]
    let reached := Folder.missing.afterAll [first, torn]
    reached = .present [(fileName ['a'], .text ['1']), (temporaryName ['a'], .text ['2'])] ∧
      (reached.answer (.read ['a'] false)).1 = .ok ((lastWritten?
        (transcript Folder.answer .missing [first, torn]) ['a']).or (Folder.missing.text? ['a'])) ∧
      (reached.answer (.write ['a'] ['4'] [])).2.read ['a'] = .ok (some ['4']) ∧
      transcript Storage.answer (.memory []) [first, .read ['a'] false] =
        transcript Folder.answer .missing [first, .read ['a'] false] := by
  intro first torn reached
  have kept : (reached.answer (.read ['a'] false)).1 = .ok (some ['1']) := by rfl
  have next : (reached.answer (.write ['a'] ['4'] [])).1 = .ok none := by rfl
  obtain ⟨-, -, -, -, read, -⟩ :=
    answer_afterAll .missing [first, torn] (.read ['a'] false)
  obtain ⟨-, -, written, -⟩ :=
    answer_afterAll .missing [first, torn] (.write ['a'] ['4'] [])
  obtain ⟨-, -, -, -, -, -, -, memory⟩ :=
    answer_afterAll .missing [first, .read ['a'] false] torn
  have fresh : Folder.missing.SameTexts [] := fun key _ => (Folder.text?_missing key).symm
  have answers : transcript Folder.answer .missing [first, .read ['a'] false] =
      [(first, .ok none), (.read ['a'] false, .ok (some ['1']))] := by rfl
  refine ⟨by decide +kernel, ?_, (written _ _ _ rfl next).1, memory [] fresh ?_⟩
  · rw [kept, ← read _ _ _ rfl kept]
  · rw [answers]
    simp

end PocketCalc
