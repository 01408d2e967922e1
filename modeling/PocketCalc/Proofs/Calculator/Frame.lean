import PocketCalc.Proofs.Calculator.Run
import PocketCalc.Proofs.Storage.Atomicity

/-! # What an operation leaves alone

A command that is refused changes nothing: whatever can refuse it has been asked before the first
change is made. One that is carried out changes the buffer, the history or both, and whether the
storage takes the history afterwards makes no difference to either: a save that fails leaves the
texts in the storage as they were, and one that succeeds changes the text of one key. All this holds
in every state, not only in those that a run reaches.

* **`Storage.text?`** — the text that a storage of any kind has under a key.
* **`History.text?_save`** — what saving does to it.
* **`evaluate_eq_ok_none_iff`** — only a blank text has no result and no fault.
* **`Calculator.eq_of_execute_eq_error`** — a command that is refused changes nothing.
* **`Calculator.Changes.text?_cases`** — what an operation does to the stored texts.
* **`Calculator.perform_withStorage`** — operations do not depend on the storage.
* **`Calculator.Confined`**, **`perform_frame`** — what every operation leaves alone. -/

namespace PocketCalc

/-! ## Stored texts -/

namespace Storage

/-- **The text that is read under a key**, if reading gives one. -/
def text? (storage : Storage) (key : List Char) : Option (List Char) :=
  (storage.read key).toOption.join

variable {storage : Storage} {key content : List Char}

/-- **A write changes the text of no other key.** -/
theorem text?_write_of_ne (storage : Storage) {key other : List Char} (content : List Char)
    (different : other ≠ key) :
    (storage.write key content).2.text? other = storage.text? other := by
  cases storage with
  | memory texts => rw [text?, text?, write, read, read, Table.get?_put_of_ne _ _ different]
  | disk folder => exact (Folder.readsAlike_writeTreated [] folder content different).text
  | readOnly texts reason | broken reason => rfl

/-- **A write that fails changes no text.** -/
theorem text?_write_of_failed (failed : (storage.write key content).1 ≠ .ok ())
    (other : List Char) : (storage.write key content).2.text? other = storage.text? other := by
  cases storage with
  | memory texts => exact absurd rfl failed
  | disk folder => exact (Folder.readsAlike_writeTreated_of_failed failed other).text
  | readOnly texts reason | broken reason => rfl

/-- **A write that succeeds gives its key the new text.** -/
theorem text?_write_of_ok (done : (storage.write key content).1 = .ok ()) :
    (storage.write key content).2.text? key = some content := by
  cases storage with
  | memory texts => rw [text?, read_write_memory]; rfl
  | disk folder => exact Folder.text?_of_read (Folder.read_writeTreated_of_ok done)
  | readOnly texts reason | broken reason => cases done

end Storage

namespace History

/-- **Saving changes the text of one key**, and only if the storage takes the entries. -/
theorem text?_save (history : History) (key : List Char) :
    (key = history.key ∧
        history.save.2.storage.text? key = some (Entry.listJson history.entries)) ∨
      history.save.2.storage.text? key = history.storage.text? key := by
  by_cases own : key = history.key
  · subst own
    by_cases done : history.save.1 = .ok ()
    · exact .inl ⟨rfl, Storage.text?_write_of_ok done⟩
    · exact .inr (Storage.text?_write_of_failed done history.key)
  · exact .inr (history.storage.text?_write_of_ne _ own)

end History

/-! ## Evaluation -/

/-- An outcome can be told from what it succeeds with. -/
theorem eq_ok_of_toOption {Reason Value : Type} {outcome : Except Reason Value} {value : Value}
    (succeeds : outcome.toOption = some value) : outcome = .ok value := by
  cases outcome with
  | error reason => cases succeeds
  | ok result => exact congrArg Except.ok (Option.some.inj succeeds)

/-- **Only a blank text has no result and no fault.** -/
theorem evaluate_eq_ok_none_iff {text : List Char} :
    evaluate text = .ok none ↔ ∀ c ∈ text, isBlank c = true := by
  rw [← trim_eq_nil_iff]
  constructor
  · intro nothing
    apply Classical.byContradiction
    intro something
    -- behind a text that is not blank every stage ends with a fault or with a value
    unfold evaluate at nothing
    split at nothing
    · cases nothing
    · rename_i unprepared
      simp only [prepare, List.isEmpty_iff, if_neg something] at unprepared
      repeat' split at unprepared
      all_goals cases unprepared
    · split at nothing
      · cases nothing
      · rename_i value found
        cases result : value.result with
        | error verdict =>
          rw [result] at nothing
          cases nothing
        | ok shown =>
          rw [result] at nothing
          cases nothing
  · intro blank
    have unprepared : prepare text = .ok none := by
      rw [prepare, blank]
      rfl
    rw [evaluate, unprepared]

namespace Calculator

variable {calculator next : Calculator} {now : Timestamp}

/-- The outcome of an evaluation is that of the text. -/
theorem evaluate_fst (calculator : Calculator) (now : Timestamp) :
    (calculator.evaluate now).1 = PocketCalc.evaluate calculator.buffer.text := by
  unfold evaluate
  split <;> exact (by assumption : PocketCalc.evaluate _ = _).symm

/-- An evaluation that has a result settles the calculator. -/
theorem evaluate_eq_ok_some_iff {result : List Char} :
    calculator.evaluate now = (.ok (some result), next) ↔
      PocketCalc.evaluate calculator.buffer.text = .ok (some result) ∧
        next = calculator.settle now result := by
  unfold evaluate
  cases PocketCalc.evaluate calculator.buffer.text with
  | error verdict => simp
  | ok outcome =>
    cases outcome with
    | none => simp
    | some shown =>
      simp only [Prod.mk.injEq, Except.ok.injEq, Option.some.injEq]
      constructor
      · rintro ⟨rfl, rfl⟩
        exact ⟨rfl, rfl⟩
      · rintro ⟨rfl, rfl⟩
        exact ⟨rfl, rfl⟩

/-- An evaluation of a blank buffer does nothing. -/
theorem evaluate_of_blank (blank : ∀ c ∈ calculator.buffer.text, isBlank c = true) :
    calculator.evaluate now = (.ok none, calculator) := by
  rw [evaluate, evaluate_eq_ok_none_iff.mpr blank]

/-- **An evaluation that fails changes nothing**: the text is evaluated to the end before anything
is recorded. -/
theorem evaluate_eq_of_error {verdict : EvalError}
    (failed : calculator.evaluate now = (.error verdict, next)) : next = calculator := by
  unfold evaluate at failed
  split at failed
  · exact (Prod.mk.inj failed).2.symm
  · cases failed
  · cases failed

/-! ## Operations -/

/-- Where an edit of the buffer is refused, the calculator has the buffer that the edit left. -/
theorem edit_eq_error {edited : Except Refusal Unit × Buffer} {error : CommandError}
    (refused : calculator.edit edited = (.error error, next)) :
    ∃ refusal, edited = (.error refusal, next.buffer) ∧
      next = calculator.withBuffer next.buffer := by
  obtain ⟨outcome, buffer⟩ := edited
  cases outcome with
  | error refusal =>
    obtain rfl := (Prod.mk.inj refused).2
    exact ⟨refusal, rfl, rfl⟩
  | ok accepted => cases refused

/-- **A command that is refused changes nothing.** Each of the three that can be refused is refused
before its first change. -/
theorem eq_of_execute_eq_error {command : Command} {error : CommandError}
    (refused : calculator.execute now command = (.error error, next)) : next = calculator := by
  cases command with
  | symbol character =>
    obtain ⟨refusal, added, same⟩ := edit_eq_error refused
    rw [same, Buffer.add_eq_of_error added]
    rfl
  | toggleSign =>
    obtain ⟨refusal, toggled, same⟩ := edit_eq_error refused
    rw [same, Buffer.toggleSign_eq_of_error toggled]
    rfl
  | clear | backspace => cases refused
  | evaluate =>
    rw [execute] at refused
    rcases evaluated : calculator.evaluate now with ⟨verdict | result, left⟩
    · rw [evaluated] at refused
      obtain rfl : left = next := (Prod.mk.inj refused).2
      exact evaluate_eq_of_error evaluated
    · rw [evaluated] at refused
      cases refused

/-- **Commands other than evaluation leave the history alone**, refused or not. -/
theorem history_execute (calculator : Calculator) (now : Timestamp) {command : Command}
    (other : command ≠ .evaluate) :
    (calculator.execute now command).2.history = calculator.history := by
  cases command with
  | symbol character | toggleSign | clear | backspace => rfl
  | evaluate => exact absurd rfl other

/-- **Reloading leaves the history alone.** -/
theorem history_reload (index : Nat) :
    (calculator.reload index).2.history = calculator.history := by
  rcases reloaded : calculator.reload index with ⟨_ | _, next⟩
  · rw [reload_eq_of_false reloaded]
  · obtain ⟨entry, -, -, rfl⟩ := reload_eq_true_iff.mp reloaded
    rfl

/-- **What an operation does to the stored texts**: at most it puts the entries that are then there
under the key of the history. -/
theorem Changes.text?_cases (change : Changes now calculator next) (key : List Char) :
    (key = calculator.history.key ∧
        next.history.storage.text? key = some (Entry.listJson next.history.entries)) ∨
      next.history.storage.text? key = calculator.history.storage.text? key := by
  cases change with
  | kept | edited | reloaded => exact .inr rfl
  | settled found => exact (calculator.history.recorded _).text?_save key
  | removed index => exact (calculator.history.removed index).text?_save key
  | cleared => exact calculator.history.cleared.text?_save key

/-! ## Storage -/

/-- The calculator with its history in another place. -/
def withStorage (calculator : Calculator) (storage : Storage) : Calculator :=
  { calculator with history := { calculator.history with storage := storage } }

/-- **Two calculators that show the same** wherever they store their histories. -/
structure Alike (left right : Calculator) : Prop where
  /-- The same is typed. -/
  buffer : left.buffer = right.buffer
  /-- The histories have the same entries. -/
  entries : left.history.entries = right.history.entries

/-- **Operations do not depend on the storage**: a save that fails is noticed nowhere. -/
theorem perform_withStorage (calculator : Calculator) (now : Timestamp) (storage : Storage)
    (operation : CalculatorOperation) :
    ((calculator.withStorage storage).perform now operation).Alike
      (calculator.perform now operation) := by
  have same : (calculator.withStorage storage).buffer = calculator.buffer := rfl
  have entries : (calculator.withStorage storage).history.entries = calculator.history.entries :=
    rfl
  cases operation with
  | command command =>
    cases command with
    | symbol character | toggleSign | clear | backspace => exact ⟨rfl, rfl⟩
    | evaluate =>
      rw [perform, perform, execute, execute, evaluate, evaluate, same]
      cases PocketCalc.evaluate calculator.buffer.text with
      | error verdict => exact ⟨rfl, rfl⟩
      | ok outcome => cases outcome <;> exact ⟨rfl, rfl⟩
  | reload index =>
    rw [perform, perform, reload, reload, entries, same]
    cases calculator.history.entries[index]? with
    | none => exact ⟨rfl, rfl⟩
    | some entry =>
      by_cases full : calculator.buffer.limit < entry.expression.length
      · simp only [full, if_true]
        exact ⟨rfl, rfl⟩
      · simp only [full, if_false]
        exact ⟨rfl, rfl⟩
  | remove index | clearHistory => exact ⟨rfl, rfl⟩

/-- **What every operation leaves alone**, at a moment. -/
structure Confined (calculator : Calculator) (now : Timestamp) : Prop where
  /-- A command that is refused leaves the buffer, the entries and the storage as they were. -/
  refused : ∀ command error next,
    calculator.execute now command = (.error error, next) → next = calculator
  /-- A command other than evaluation leaves the history and its storage alone. -/
  typed : ∀ command outcome next, command ≠ .evaluate →
    calculator.execute now command = (outcome, next) → next.history = calculator.history
  /-- The outcome of an evaluation is that of the text of the buffer. -/
  evaluated : (calculator.evaluate now).1 = PocketCalc.evaluate calculator.buffer.text
  /-- An evaluation that has a result succeeds as a command. It puts the result into the buffer, and
  what was there with the result in front of the entries, which are cut to the limit of the
  history. -/
  settled : ∀ result next, calculator.evaluate now = (.ok (some result), next) →
    calculator.execute now .evaluate = (.ok (), next) ∧
      next.buffer = ⟨result, calculator.buffer.limit⟩ ∧
      next.history.entries = (⟨calculator.buffer.text, result, now⟩ ::
        calculator.history.entries).take calculator.history.limit
  /-- An evaluation of a blank buffer succeeds without a result, and changes nothing. -/
  blank : (∀ c ∈ calculator.buffer.text, isBlank c = true) →
    calculator.evaluate now = (.ok none, calculator) ∧
      calculator.execute now .evaluate = (.ok (), calculator)
  /-- Reloading leaves the history and its storage alone, and the buffer as well unless an entry is
  reloaded. -/
  reloaded : ∀ index loaded next, calculator.reload index = (loaded, next) →
    next.history = calculator.history ∧ (loaded = false → next = calculator)
  /-- Removing an entry leaves the buffer alone. -/
  removed : ∀ index, (calculator.removeEntry index).buffer = calculator.buffer
  /-- Removing all entries leaves the buffer alone. -/
  cleared : calculator.clearHistory.buffer = calculator.buffer
  /-- The stored text of a key changes at most for the key of the history, and then to its
  entries. -/
  stored : ∀ operation key,
    let next := calculator.perform now operation
    (key = calculator.history.key ∧
        next.history.storage.text? key = some (Entry.listJson next.history.entries)) ∨
      next.history.storage.text? key = calculator.history.storage.text? key
  /-- Where the history is stored makes no difference to the buffer and the entries, even if a save
  fails. -/
  elsewhere : ∀ storage operation,
    ((calculator.withStorage storage).perform now operation).Alike
      (calculator.perform now operation)

end Calculator

/-- **Every operation is confined to what it is for**, in any state and with any kind of storage. -/
theorem perform_frame (calculator : Calculator) (now : Timestamp) : calculator.Confined now where
  refused _ _ _ := Calculator.eq_of_execute_eq_error
  typed command outcome next other executed := by
    have kept := calculator.history_execute now other
    rwa [executed] at kept
  evaluated := calculator.evaluate_fst now
  settled result next evaluated := by
    have executed : calculator.execute now .evaluate = (.ok (), next) := by
      rw [Calculator.execute, evaluated]
      rfl
    obtain ⟨-, rfl⟩ := Calculator.evaluate_eq_ok_some_iff.mp evaluated
    exact ⟨executed, rfl, rfl⟩
  blank blank := by
    have nothing : calculator.evaluate now = (.ok none, calculator) :=
      Calculator.evaluate_of_blank blank
    refine ⟨nothing, ?_⟩
    rw [Calculator.execute, nothing]
    rfl
  reloaded index loaded next reloaded := by
    have kept := calculator.history_reload index
    rw [reloaded] at kept
    refine ⟨kept, ?_⟩
    rintro rfl
    exact Calculator.reload_eq_of_false reloaded
  removed _ := rfl
  cleared := rfl
  stored operation := (Calculator.changes_perform calculator now operation).text?_cases
  elsewhere := calculator.perform_withStorage now

/-- A symbol is refused. Then a result is longer than the buffer may be, the one entry has to go,
and the save fails because a folder is in the way: the evaluation succeeds, and the text of another
key stays. -/
theorem perform_frame_of_failed_save :
    let moment : Timestamp := ⟨⟨2024, 2, 29, by decide, by decide⟩, 12, 30, 59, 0, by decide⟩
    let result := "0.666666666667".toList
    let storage : Storage :=
      .disk (.present [(fileName ['k'], .folder), (fileName ['j'], .text ['x'])])
    let calculator : Calculator :=
      ⟨⟨['2', '/', '3'], 4⟩, ⟨[⟨['9'], ['9'], moment⟩], 1, ['k'], storage⟩⟩
    let next := (calculator.evaluate moment).2
    (calculator.execute moment (.symbol '(')).1 = .error (.refused .impliedProduct) ∧
      (calculator.execute moment (.symbol '(')).2 = calculator ∧
      calculator.evaluate moment = (.ok (some result), next) ∧
      calculator.execute moment .evaluate = (.ok (), next) ∧
      next.buffer = ⟨result, 4⟩ ∧
      next.history.entries = [⟨['2', '/', '3'], result, moment⟩] ∧
      next.history.storage.text? ['k'] = none ∧
      next.history.storage.text? ['j'] = calculator.history.storage.text? ['j'] := by
  intro moment result storage calculator next
  have confined : calculator.Confined moment := perform_frame calculator moment
  have refused : (calculator.execute moment (.symbol '(')).1 = .error (.refused .impliedProduct) :=
    rfl
  have found : evaluate ['2', '/', '3'] = .ok (some result) :=
    eq_ok_of_toOption (by decide +kernel)
  have evaluated : calculator.evaluate moment = (.ok (some result), next) :=
    Prod.ext (confined.evaluated.trans found) rfl
  obtain ⟨executed, buffer, entries⟩ := confined.settled result next evaluated
  refine ⟨refused, confined.refused _ _ _ (Prod.ext refused rfl), evaluated, executed, buffer,
    entries, by decide +kernel, ?_⟩
  have done : calculator.perform moment (.command .evaluate) = next := congrArg Prod.snd executed
  rcases confined.stored (.command .evaluate) ['j'] with ⟨own, -⟩ | kept
  · exact absurd own (by decide)
  · rwa [done] at kept

end PocketCalc
