import PocketCalc.Proofs.Calculator.Run
import PocketCalc.Proofs.Decimal.Layout
import PocketCalc.Proofs.Expression.Acceptance

/-! # Replaying the history

An entry of the history can be reloaded at any time, and evaluating what is reloaded gives its
result again. The expression of an entry was once the text of the buffer, and a text that has a
result is within the limit: one that is beyond it ends in a point. Results, which take the place of
the text without a check, are short enough in every buffer of twenty places.

* **`length_le_of_evaluate`** — a text of the buffer that has a result is within the limit.
* **`Calculator.Replayable`** — the invariant of a run.
* **`Calculator.Replayable.changes`** — every change of the calculator keeps it.
* **`reload_evaluate_run`** — after any run, every entry can be replayed. -/

namespace PocketCalc

/-! ## Texts that have a result -/

/-- No text that ends in a point has a result. -/
theorem getLast?_ne_point_of_evaluate {text result : List Char}
    (found : evaluate text = .ok (some result)) : text.getLast? ≠ some '.' := by
  intro ends
  have accepted : IsAccepted text := .inl ⟨result, found⟩
  obtain ⟨-, -, -, complete, -⟩ := prepare_eq_ok_some_iff.mp (isAccepted_iff.mp accepted).1
  have last : (plainText (trim text)).getLast? = some '.' := by
    obtain ⟨start, rfl⟩ := List.getLast?_eq_some_iff.mp ends
    have visible : isBlank '.' = false := rfl
    rw [plainText, List.getLast?_map, getLast?_trim]
    simp only [List.filter_append, List.filter_cons, visible, Bool.not_false, List.filter_nil,
      if_true, List.getLast?_concat]
    rfl
  rw [last] at complete
  cases complete

/-- No result has more than twenty characters. -/
theorem length_le_of_result {text result : List Char}
    (found : evaluate text = .ok (some result)) : result.length ≤ 20 := by
  obtain ⟨negative, magnitude, rfl⟩ := exists_resultText_of_evaluate found
  exact length_resultText_le negative magnitude

/-- **A text of the buffer that has a result is within the limit.** -/
theorem length_le_of_evaluate {buffer : Buffer} {result : List Char} (fits : buffer.Fits)
    (found : evaluate buffer.text = .ok (some result)) : buffer.text.length ≤ buffer.limit := by
  rcases fits with within | ⟨-, point⟩
  · exact within
  · exact absurd point (getLast?_ne_point_of_evaluate found)

/-! ## The invariant -/

namespace Calculator

/-- **Every entry can be replayed**, and the text of the buffer can become an entry that can. -/
structure Replayable (calculator : Calculator) : Prop where
  /-- Every result has room. -/
  enough : 20 ≤ calculator.buffer.limit
  /-- The buffer is within its limit, or ends in a point. -/
  fits : calculator.buffer.Fits
  /-- The expression of an entry has room. -/
  room : ∀ entry ∈ calculator.history.entries, entry.expression.length ≤ calculator.buffer.limit
  /-- The expression of an entry evaluates to its result. -/
  result : ∀ entry ∈ calculator.history.entries,
    PocketCalc.evaluate entry.expression = .ok (some entry.result)

namespace Replayable

variable {calculator : Calculator}

/-- Nothing is typed, and no entry is there. -/
theorem start {settings : Settings} {storage : Storage} (enough : 20 ≤ settings.maxLength)
    (fresh : (Calculator.start settings storage).history.entries = []) :
    (Calculator.start settings storage).Replayable where
  enough := enough
  fits := .inl (Nat.zero_le _)
  room := by simp [fresh]
  result := by simp [fresh]

/-- **Every change of the calculator keeps its entries replayable.** -/
theorem changes (replayable : calculator.Replayable) {now : Timestamp} {next : Calculator}
    (change : Changes now calculator next) : next.Replayable where
  enough := by
    rw [change.limit_eq]
    exact replayable.enough
  fits := by
    rcases change.buffer_cases with same | ⟨key, edited⟩ | ⟨result, found, replaced⟩ |
      ⟨entry, -, room, replaced⟩
    · rw [same]
      exact replayable.fits
    · have positive : 0 < calculator.buffer.limit :=
        Nat.lt_of_lt_of_le (by decide) replayable.enough
      rw [edited]
      exact replayable.fits.edit positive key
    · rw [replaced]
      exact .inl (Nat.le_trans (length_le_of_result found) replayable.enough)
    · rw [replaced]
      exact .inl room
  room := by
    intro entry member
    rw [change.limit_eq]
    rcases change.mem_entries member with older | ⟨newest, found⟩
    · exact replayable.room entry older
    · -- the newest entry holds the text of the buffer, which had a result
      rw [newest]
      exact length_le_of_evaluate replayable.fits found
  result := by
    intro entry member
    rcases change.mem_entries member with older | ⟨newest, found⟩
    · exact replayable.result entry older
    · rw [newest]
      exact found

/-- A run keeps the entries replayable. -/
theorem run (replayable : calculator.Replayable)
    (steps : List (Timestamp × CalculatorOperation)) : (calculator.run steps).Replayable :=
  run_induction (fun change replayable => replayable.changes change) replayable steps

end Replayable

/-- **Evaluating what is reloaded** gives the result that was recorded. -/
theorem evaluate_withBuffer (calculator : Calculator) (now : Timestamp)
    {expression result : List Char}
    (found : PocketCalc.evaluate expression = .ok (some result)) :
    let reloaded := calculator.withBuffer (calculator.buffer.replace expression)
    reloaded.evaluate now = (.ok (some result), reloaded.settle now result) := by
  intro reloaded
  have same : PocketCalc.evaluate reloaded.buffer.text = .ok (some result) := found
  simp only [evaluate, same]

end Calculator

/-- **The history can be replayed.** Let a calculator for at least twenty characters start without
history and carry out any operations. Then every entry can be reloaded, which puts its expression
into the buffer, and evaluating right behind that, at any moment, gives its result. -/
theorem reload_evaluate_run {settings : Settings} {storage : Storage}
    (enough : 20 ≤ settings.maxLength)
    (fresh : (Calculator.start settings storage).history.entries = [])
    (steps : List (Timestamp × CalculatorOperation)) :
    let reached := (Calculator.start settings storage).run steps
    ∀ (index : Nat) (inside : index < reached.history.entries.length),
      ∃ reloaded, reached.reload index = (true, reloaded) ∧
        reloaded.buffer.text = reached.history.entries[index].expression ∧
        ∀ now, ∃ next,
          reloaded.evaluate now = (.ok (some reached.history.entries[index].result), next) := by
  intro reached index inside
  have replayable : reached.Replayable := (Calculator.Replayable.start enough fresh).run steps
  have member : reached.history.entries[index] ∈ reached.history.entries := List.getElem_mem inside
  have room := replayable.room _ member
  have reloads : reached.reload index = (true, reached.withBuffer
      (reached.buffer.replace reached.history.entries[index].expression)) :=
    Calculator.reload_eq_true_iff.mpr ⟨_, List.getElem?_eq_getElem inside, room, rfl⟩
  refine ⟨_, reloads, rfl, ?_⟩
  intro now
  exact ⟨_, Calculator.evaluate_withBuffer reached now (replayable.result _ member)⟩

/-- A quotient with a long result can be replayed. -/
theorem reload_evaluate_run_of_quotient :
    let moment : Timestamp := ⟨⟨2024, 2, 29, by decide, by decide⟩, 12, 30, 59, 0, by decide⟩
    let steps : List (Timestamp × CalculatorOperation) :=
      [(moment, .command (.symbol '2')), (moment, .command (.symbol '/')),
        (moment, .command (.symbol '3')), (moment, .command .evaluate)]
    let reached := (Calculator.start Settings.standard (.memory [])).run steps
    reached.history.entries = [⟨['2', '/', '3'], "0.666666666667".toList, moment⟩] ∧
      ∀ (index : Nat) (inside : index < reached.history.entries.length),
        ∃ reloaded, reached.reload index = (true, reloaded) ∧
          reloaded.buffer.text = reached.history.entries[index].expression ∧
          ∀ now, ∃ next,
            reloaded.evaluate now = (.ok (some reached.history.entries[index].result), next) := by
  intro moment steps
  have enough : 20 ≤ Settings.standard.maxLength := by decide
  have fresh : (Calculator.start Settings.standard (.memory [])).history.entries = [] := rfl
  exact ⟨by decide +kernel, reload_evaluate_run enough fresh steps⟩

end PocketCalc
