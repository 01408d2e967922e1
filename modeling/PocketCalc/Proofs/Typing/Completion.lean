import PocketCalc.Proofs.Typing.Agreement

/-! # Completion of typed texts

The rules of admission are to keep the calculator out of texts that cannot be finished. They do,
except behind the two faults that they overlook: a typed text can be finished exactly if it is not
spoilt. To finish it, type a zero where an operand is due, and then close the open parentheses one
by one.

* **`Buffer.addAll`** — type several symbols, all of them accepted.
* **`Completable`** — some symbols finish the text.
* **`Typed.completable_of_not_spoilt`**, **`Typed.not_completable_of_spoilt`** — the two cases.
* **`completable_iff_not_spoilt_of_addAll`** — which texts reached by typing can be finished. -/

namespace PocketCalc

/-! ## Typing several symbols -/

namespace Buffer

/-- **The buffer after several symbols**, if each of them is accepted in its turn. -/
def addAll (buffer : Buffer) : List Char → Except Refusal Buffer
  | [] => .ok buffer
  | symbol :: rest =>
    match buffer.add symbol with
    | (.error refusal, _) => .error refusal
    | (.ok (), next) => next.addAll rest

/-- The first symbol is typed, and then the others. -/
theorem addAll_cons_eq_ok_iff {buffer next : Buffer} {symbol : Char} {rest : List Char} :
    buffer.addAll (symbol :: rest) = .ok next ↔
      ∃ between, buffer.add symbol = (.ok (), between) ∧ between.addAll rest = .ok next := by
  rw [addAll]
  rcases buffer.add symbol with ⟨refusal | accepted, between⟩ <;> simp

/-- **Several symbols go behind a typed text and leave it typed**, by induction on the symbols. -/
theorem typed_append_of_addAll {buffer next : Buffer} {symbols : List Char}
    (typed : Typed buffer.text) (added : buffer.addAll symbols = .ok next) :
    Typed next.text ∧ ∃ more, next.text = buffer.text ++ more := by
  induction symbols generalizing buffer with
  | nil =>
    obtain rfl : buffer = next := Except.ok.inj added
    exact ⟨typed, [], (List.append_nil _).symm⟩
  | cons symbol rest ih =>
    obtain ⟨between, first, others⟩ := addAll_cons_eq_ok_iff.mp added
    obtain ⟨typedNext, more, whole⟩ := ih (typed_add typed first) others
    obtain ⟨-, -, rfl⟩ := add_eq_ok_iff.mp first
    refine ⟨typedNext, inserted buffer.text (plain symbol) ++ more, ?_⟩
    rw [whole, List.append_assoc]

end Buffer

/-! ## Completable texts -/

/-- **A text that can be finished**: some symbols are accepted behind it, in every buffer with
enough room, and the evaluator finds a value for the text that they make. -/
def Completable (text : List Char) : Prop :=
  ∃ symbols enough, ∀ limit, enough ≤ limit →
    ∃ next, (Buffer.mk text limit).addAll symbols = .ok next ∧ IsAccepted next.text

/-- An accepted text is finished already. -/
theorem Completable.of_isAccepted {text : List Char} (accepted : IsAccepted text) :
    Completable text :=
  ⟨[], 0, fun limit _ => ⟨⟨text, limit⟩, rfl, accepted⟩⟩

/-- **A text can be finished if it can be behind a further admitted symbol.** -/
theorem Completable.of_concat {text : List Char} {c : Char} (admits : Admits text c)
    (written : Buffer.inserted text c = [c]) (completable : Completable (text ++ [c])) :
    Completable text := by
  obtain ⟨symbols, enough, finish⟩ := completable
  refine ⟨c :: symbols, max enough (text.length + 1), ?_⟩
  intro limit room
  obtain ⟨next, added, accepted⟩ := finish limit (Nat.le_trans (Nat.le_max_left _ _) room)
  refine ⟨next, Buffer.addAll_cons_eq_ok_iff.mpr ⟨_, ?_, added⟩, accepted⟩
  have plainChar : plain c = c := plain_of_isTypable admits.isTypable
  have below : text.length < limit := Nat.le_trans (Nat.le_max_right _ _) room
  apply Buffer.add_eq_ok_iff.mpr
  rw [plainChar, written]
  exact ⟨below, admission_eq_ok_iff.mpr admits, rfl⟩

namespace Typed

variable {text : List Char}

/-- **Closing the open parentheses finishes a text that ends in a value**, by induction on their
number. -/
theorem completable_of_endsValue (typed : Typed text) (value : endsValue text.getLast? = true)
    (sound : ¬ Spoilt text) {depth : Nat} (opened : openParens text = depth) :
    Completable text := by
  induction depth generalizing text with
  | zero => exact .of_isAccepted (typed.isAccepted_iff.mpr ⟨⟨opened, value⟩, sound⟩)
  | succ depth ih =>
    have positive : 0 < openParens text := by
      rw [opened]
      exact Int.natCast_pos.mpr (Nat.succ_pos depth)
    -- a closing parenthesis is admitted, spoils nothing and leaves one less to close
    have admits : Admits text ')' := .closing positive value
    have stillSound : ¬ Spoilt (text ++ [')']) := by
      simpa [Spoilt, valueBehindClosing_concat, pointBehindPercent_concat] using sound
    have shallower : openParens (text ++ [')']) = depth := by
      rw [openParens_append, opened, show openParens [')'] = -1 from rfl]
      omega
    have closed := ih (typed.concat admits) (by simp [endsValue, isOperator]) stillSound shallower
    exact .of_concat admits rfl closed

/-- **A text that is not spoilt can be finished.** Where no value ends, a zero makes one. -/
theorem completable_of_not_spoilt (typed : Typed text) (sound : ¬ Spoilt text) :
    Completable text := by
  have finished {text : List Char} (typed : Typed text) (value : endsValue text.getLast? = true)
      (sound : ¬ Spoilt text) : Completable text := by
    rcases typed.stage.valued value with valued | stopped
    · obtain ⟨_, _, _, _, _, progress, -, -⟩ := valued
      exact typed.completable_of_endsValue value sound progress.openParens_eq
    · exact absurd (.inr stopped.1) sound
  by_cases value : endsValue text.getLast? = true
  · exact finished typed value sound
  · -- no value ends here, so in particular no group does, and the zero spoils nothing
    have unclosed : text.getLast? ≠ some ')' := by
      intro closed
      simp [closed, endsValue, isOperator] at value
    have admits : Admits text '0' := .digit rfl
    have stillSound : ¬ Spoilt (text ++ ['0']) := by
      simpa [Spoilt, valueBehindClosing_concat, pointBehindPercent_concat, unclosed] using sound
    have ended : endsValue (text ++ ['0']).getLast? = true := by simp [endsValue, isOperator]
    exact .of_concat admits rfl (finished (typed.concat admits) ended stillSound)

/-- **A spoilt text cannot be finished**, because whatever is typed behind it leaves it spoilt. -/
theorem not_completable_of_spoilt (typed : Typed text) (spoilt : Spoilt text) :
    ¬ Completable text := by
  rintro ⟨symbols, enough, finish⟩
  obtain ⟨next, added, accepted⟩ := finish enough (Nat.le_refl enough)
  obtain ⟨typedNext, more, whole⟩ := Buffer.typed_append_of_addAll typed added
  have sound : ¬ Spoilt next.text := (typedNext.isAccepted_iff.mp accepted).2
  rw [whole] at sound
  exact sound (spoilt.append more)

end Typed

/-! ## Texts reached by typing -/

/-- **Which texts reached by typing can be finished**: those in which no digit follows a closing
parenthesis and no point follows a percent sign in the same numeral. -/
theorem completable_iff_not_spoilt_of_addAll {limit : Nat} {symbols : List Char} {buffer : Buffer}
    (reached : (Buffer.empty limit).addAll symbols = .ok buffer) :
    Completable buffer.text ↔ ¬ Spoilt buffer.text := by
  have typed : Typed buffer.text := (Buffer.typed_append_of_addAll .nil reached).1
  constructor
  · intro completable spoilt
    exact typed.not_completable_of_spoilt spoilt completable
  · exact typed.completable_of_not_spoilt

/-- A sum in a group, both unfinished, can be finished. -/
theorem completable_iff_not_spoilt_of_open_sum :
    (Buffer.empty 120).addAll ['(', '2', '+'] = .ok ⟨['(', '2', '+'], 120⟩ ∧
      (Completable ['(', '2', '+'] ↔ ¬ Spoilt ['(', '2', '+']) := by
  have reached : (Buffer.empty 120).addAll ['(', '2', '+'] = .ok ⟨['(', '2', '+'], 120⟩ := rfl
  exact ⟨reached, completable_iff_not_spoilt_of_addAll reached⟩

/-- **A digit is accepted behind a closing parenthesis, and then nothing finishes the text.** -/
theorem exists_addAll_not_completable :
    (Buffer.empty 120).addAll ['(', '1', ')', '2'] = .ok ⟨['(', '1', ')', '2'], 120⟩ ∧
      ¬ Completable ['(', '1', ')', '2'] := by
  have reached : (Buffer.empty 120).addAll ['(', '1', ')', '2'] =
      .ok ⟨['(', '1', ')', '2'], 120⟩ := rfl
  have typed := (Buffer.typed_append_of_addAll .nil reached).1
  have digitBehind : [')', '2'] <:+: ['(', '1', ')', '2'] := ⟨['(', '1'], [], rfl⟩
  exact ⟨reached, typed.not_completable_of_spoilt (.inl ⟨'2', rfl, digitBehind⟩)⟩

end PocketCalc
