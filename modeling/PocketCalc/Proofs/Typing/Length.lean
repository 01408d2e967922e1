import Mathlib.Data.List.Induction
import PocketCalc.Proofs.Typing.Typed

/-! # The length of the buffer

Typing checks that there is room for one character, and the sign key that there is room for those it
adds. A point that opens a number brings a zero, which no check counts: in the last place it makes
the buffer one character longer than its limit. Nothing else does, and nothing is added to a buffer
that is too long.

* **`Buffer.Fits`** — the lengths to which editing brings a buffer.
* **`Buffer.Fits.edit`** — every key keeps to them.
* **`Buffer.OpensNumberInLastPlace`** — the one key that exceeds the limit.
* **`length_editAll_le_limit_iff`** — when a run of keys keeps to the limit. -/

namespace PocketCalc

namespace Buffer

/-! ## What is added -/

/-- Whether a point behind the text opens a number: at the start, and behind an opening
parenthesis. -/
def opensNumber (text : List Char) : Bool := text.getLast?.isNone || text.getLast? == some '('

/-- A point that opens a number brings its zero. -/
theorem inserted_point {text : List Char} (opens : opensNumber text = true) :
    inserted text '.' = ['0', '.'] := by
  rw [opensNumber] at opens
  simp [inserted, opens]

/-- Every other symbol is written alone. -/
theorem inserted_alone {text : List Char} {symbol : Char}
    (alone : symbol = '.' → opensNumber text = false) : inserted text symbol = [symbol] := by
  unfold inserted
  split
  · rename_i opens
    rw [Bool.and_eq_true, decide_eq_true_eq] at opens
    have contrary := alone opens.1
    rw [opensNumber, opens.2] at contrary
    cases contrary
  · rfl

/-- A point that opens a number is admitted. -/
theorem admits_point {text : List Char} (opens : opensNumber text = true) : Admits text '.' := by
  rw [opensNumber, Bool.or_eq_true, Option.isNone_iff_eq_none, beq_iff_eq] at opens
  rcases opens with start | opening
  · obtain rfl := List.getLast?_eq_none_iff.mp start
    exact .point (by simp [currentNumeral]) (by simp)
  · obtain ⟨before, rfl⟩ := List.getLast?_eq_some_iff.mp opening
    exact .point (by simp [currentNumeral, endsNumeral]) (by simp)

/-! ## Keeping to the limit -/

/-- **Typing keeps to the limit**, unless a point opens a number in the last place. -/
theorem length_add {buffer next : Buffer} {symbol : Char}
    (added : buffer.add symbol = (.ok (), next)) :
    next.length ≤ buffer.limit ∨ next.length = buffer.limit + 1 ∧ plain symbol = '.' ∧
      opensNumber buffer.text = true ∧ buffer.length + 1 = buffer.limit := by
  obtain ⟨room, -, rfl⟩ := add_eq_ok_iff.mp added
  have count : (buffer.text ++ inserted buffer.text (plain symbol)).length =
      buffer.length + (inserted buffer.text (plain symbol)).length := List.length_append
  rw [length, count]
  by_cases opens : plain symbol = '.' ∧ opensNumber buffer.text = true
  · have two : (inserted buffer.text (plain symbol)).length = 2 := by
      rw [opens.1, inserted_point opens.2]
      rfl
    rw [two]
    rcases Nat.lt_or_ge (buffer.length + 1) buffer.limit with more | last
    · exact .inl more
    · have exact : buffer.length + 1 = buffer.limit := Nat.le_antisymm room last
      exact .inr ⟨by omega, opens.1, opens.2, exact⟩
  · have one : (inserted buffer.text (plain symbol)).length = 1 := by
      rw [inserted_alone fun point => by simpa [point] using opens]
      rfl
    rw [one]
    exact .inl room

/-- **The sign key keeps to the limit**, also in a buffer that is one character too long: it takes
something off, or there is room for what it adds. -/
theorem Toggles.length_le {buffer next : Buffer} (toggles : buffer.Toggles next)
    (positive : 0 < buffer.limit) (fits : buffer.length ≤ buffer.limit + 1) :
    next.length ≤ buffer.limit := by
  cases toggles with
  | begun nothing => exact positive
  | @unwrapped inside wrapped =>
    rw [length, (unwrap?_eq_some_iff.mp wrapped).1, length_wrap] at fits
    change inside.length ≤ buffer.limit
    omega
  | unsigned bare number signed =>
    rw [length, signed] at fits
    exact Nat.le_of_succ_le_succ fits
  | signed bare number positive room => exact room
  | wrapped something bare other room =>
    rw [length, length_wrap]
    exact room

/-- The sign key leaves the limit as it is. -/
theorem Toggles.limit_eq {buffer next : Buffer} (toggles : buffer.Toggles next) :
    next.limit = buffer.limit := by
  cases toggles <;> rfl

/-- Every key leaves the limit as it is. -/
@[simp] theorem limit_edit (buffer : Buffer) (key : Edit) :
    (buffer.edit key).limit = buffer.limit := by
  generalize change : buffer.edit key = next
  cases change ▸ buffer.edited_edit key with
  | refused => rfl
  | typed added => exact congrArg (·.2.limit) added ▸ buffer.limit_add _
  | shortened => rfl
  | cleared => rfl
  | toggled toggles => exact toggles.limit_eq

/-- Several keys leave the limit as it is. -/
@[simp] theorem limit_editAll (buffer : Buffer) (edits : List Edit) :
    (buffer.editAll edits).limit = buffer.limit := by
  induction edits generalizing buffer with
  | nil => rfl
  | cons key rest ih => exact (ih (buffer.edit key)).trans (limit_edit buffer key)

/-! ## Lengths that editing brings about -/

/-- **The length is within the limit, or one beyond it behind a point.** -/
def Fits (buffer : Buffer) : Prop :=
  buffer.length ≤ buffer.limit ∨
    buffer.length = buffer.limit + 1 ∧ buffer.text.getLast? = some '.'

/-- A buffer that fits is at most one character too long. -/
theorem Fits.length_le {buffer : Buffer} (fits : buffer.Fits) :
    buffer.length ≤ buffer.limit + 1 := by
  rcases fits with within | ⟨beyond, -⟩
  · exact Nat.le_succ_of_le within
  · exact Nat.le_of_eq beyond

/-- **Every key keeps the buffer fitting.** -/
theorem Fits.edit {buffer : Buffer} (positive : 0 < buffer.limit) (fits : buffer.Fits)
    (key : Edit) : (buffer.edit key).Fits := by
  have size := buffer.limit_edit key
  generalize change : buffer.edit key = next at size
  rw [Fits, size]
  cases change ▸ buffer.edited_edit key with
  | refused => exact fits
  | typed added =>
    rcases length_add added with within | ⟨beyond, point, opens, -⟩
    · exact .inl within
    · -- the zero stands before its point, so the point is last
      obtain ⟨-, -, rfl⟩ := add_eq_ok_iff.mp added
      refine .inr ⟨beyond, ?_⟩
      simp [point, inserted_point opens]
  | shortened =>
    refine .inl ?_
    have bound := fits.length_le
    change buffer.text.dropLast.length ≤ buffer.limit
    rw [List.length_dropLast]
    exact Nat.sub_le_of_le_add bound
  | cleared => exact .inl (Nat.zero_le _)
  | toggled toggles => exact .inl (toggles.length_le positive fits.length_le)

/-- A run of keys keeps the buffer fitting. -/
theorem Fits.editAll {buffer : Buffer} (positive : 0 < buffer.limit) (fits : buffer.Fits)
    (edits : List Edit) : (buffer.editAll edits).Fits := by
  induction edits generalizing buffer with
  | nil => exact fits
  | cons key rest ih =>
    exact ih (by rwa [limit_edit]) (fits.edit positive key)

/-! ## When the limit is exceeded -/

/-- **A point that opens a number is typed in the last place.** -/
def OpensNumberInLastPlace (buffer : Buffer) (key : Edit) : Prop :=
  ∃ symbol, key = .symbol symbol ∧ plain symbol = '.' ∧ opensNumber buffer.text = true ∧
    buffer.length + 1 = buffer.limit

/-- **From within the limit, only such a point leads beyond it.** -/
theorem limit_lt_length_edit_iff {buffer : Buffer} (positive : 0 < buffer.limit)
    (within : buffer.length ≤ buffer.limit) (key : Edit) :
    buffer.limit < (buffer.edit key).length ↔ buffer.OpensNumberInLastPlace key := by
  constructor
  · intro beyond
    generalize change : buffer.edit key = next at beyond
    cases change ▸ buffer.edited_edit key with
    | refused => exact absurd within (Nat.not_le.mpr beyond)
    | @typed symbol _ added =>
      obtain ⟨-, point, opens, last⟩ := (length_add added).resolve_left (Nat.not_le.mpr beyond)
      exact ⟨symbol, rfl, point, opens, last⟩
    | shortened =>
      have shorter : buffer.backspace.length ≤ buffer.length := by
        simp [length, backspace]
      exact absurd (Nat.le_trans shorter within) (Nat.not_le.mpr beyond)
    | cleared => exact absurd (Nat.zero_le _) (Nat.not_le.mpr beyond)
    | toggled toggles =>
      have bound := toggles.length_le positive (Nat.le_succ_of_le within)
      exact absurd bound (Nat.not_le.mpr beyond)
  · rintro ⟨symbol, rfl, point, opens, last⟩
    have room : buffer.length < buffer.limit := Nat.lt_of_succ_le (Nat.le_of_eq last)
    have added : buffer.add symbol =
        (.ok (), { buffer with text := buffer.text ++ ['0', '.'] }) := by
      rw [add_eq_ok_iff, point, inserted_point opens]
      exact ⟨room, admission_eq_ok_iff.mpr (admits_point opens), rfl⟩
    rw [edit, added]
    have longer : (buffer.text ++ ['0', '.']).length = buffer.length + 2 := List.length_append
    rw [length, longer]
    omega

end Buffer

/-- **When editing keeps to the limit.** After every step of a run of keys the buffer is at most one
character longer than its limit, and it is never longer than its limit exactly if no key of the run
opens a number with a point in the last place. -/
theorem length_editAll_le_limit_iff {limit : Nat} (positive : 0 < limit) (edits : List Edit) :
    (∀ done, done <+: edits → ((Buffer.empty limit).editAll done).length ≤ limit + 1) ∧
      ((∀ done, done <+: edits → ((Buffer.empty limit).editAll done).length ≤ limit) ↔
        ∀ done key, done ++ [key] <+: edits →
          ¬ ((Buffer.empty limit).editAll done).OpensNumberInLastPlace key) := by
  have size (done : List Edit) : ((Buffer.empty limit).editAll done).limit = limit :=
    Buffer.limit_editAll _ done
  have step (done : List Edit) (key : Edit) : (Buffer.empty limit).editAll (done ++ [key]) =
      ((Buffer.empty limit).editAll done).edit key := by
    simp [Buffer.editAll]
  have exceeds (done : List Edit) (key : Edit)
      (within : ((Buffer.empty limit).editAll done).length ≤ limit) :
      limit < ((Buffer.empty limit).editAll (done ++ [key])).length ↔
        ((Buffer.empty limit).editAll done).OpensNumberInLastPlace key := by
    have room : 0 < ((Buffer.empty limit).editAll done).limit := by rwa [size]
    have moment := Buffer.limit_lt_length_edit_iff room (by rwa [size]) key
    rwa [size, ← step] at moment
  refine ⟨?_, ?_, ?_⟩
  · intro done _
    have start : (Buffer.empty limit).Fits := .inl (Nat.zero_le _)
    have bound := (start.editAll positive done).length_le
    rwa [size] at bound
  · intro within done key part opens
    have before : done <+: edits := (List.prefix_append done [key]).trans part
    have beyond := (exceeds done key (within done before)).mpr opens
    exact absurd (within _ part) (Nat.not_le.mpr beyond)
  · -- the last key of a run starts within the limit and does not lead beyond it
    intro closed done
    induction done using List.reverseRecOn with
    | nil => exact fun _ => Nat.zero_le _
    | append_singleton done key ih =>
      intro part
      have within := ih ((List.prefix_append done [key]).trans part)
      apply Nat.le_of_not_lt
      intro beyond
      exact closed done key part ((exceeds done key within).mp beyond)

/-- A sum typed into five places, with a refused digit in the sixth. -/
theorem length_editAll_le_limit_iff_of_sum :
    let edits : List Edit := [.symbol '1', .symbol '+', .symbol '.', .symbol '5', .toggleSign,
      .symbol '2', .symbol '3']
    0 < 5 ∧
      (∀ done, done <+: edits → ((Buffer.empty 5).editAll done).length ≤ 5 + 1) ∧
      ((∀ done, done <+: edits → ((Buffer.empty 5).editAll done).length ≤ 5) ↔
        ∀ done key, done ++ [key] <+: edits →
          ¬ ((Buffer.empty 5).editAll done).OpensNumberInLastPlace key) := by
  intro edits
  have positive : 0 < 5 := by decide
  exact ⟨positive, length_editAll_le_limit_iff positive edits⟩

/-- **A buffer can become longer than its limit**: behind `(` there is room for one character, and a
point writes two. -/
theorem exists_limit_lt_length_editAll :
    let edits : List Edit := [.symbol '(', .symbol '.']
    (Buffer.empty 2).editAll edits = ⟨['(', '0', '.'], 2⟩ ∧
      2 < ((Buffer.empty 2).editAll edits).length :=
  ⟨rfl, by decide⟩

end PocketCalc
