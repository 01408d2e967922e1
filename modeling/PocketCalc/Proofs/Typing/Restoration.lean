import PocketCalc.Proofs.Typing.Negation

/-! # Pressing the sign key twice

What the sign key does to a text, a second press takes back: the cases are tried in an order in
which each new text is recognized by the case that undoes it and by none before. This holds of
unfinished texts too. A text that is a wrapper itself is left out, since it is unwrapped, and what
was inside need not be wrapped by the next press.

* **`unwrap?_eq_none_of_cons`** — a wrapper begins with its parenthesis.
* **`isPlainNumber_minus_cons`** — a sign in front makes no difference to what is a number.
* **`Buffer.Toggles.restores`** — the case that undoes a case.
* **`Buffer.toggleSign_toggleSign`** — two presses restore the text. -/

namespace PocketCalc

/-! ## Texts that are no wrappers -/

/-- A wrapper begins with its parenthesis. -/
theorem unwrap?_eq_none_of_cons {c : Char} (other : c ≠ '(') (rest : List Char) :
    unwrap? (c :: rest) = none := by
  rw [Option.eq_none_iff_forall_ne_some]
  intro inside unwrapped
  have wrapped := (unwrap?_eq_some_iff.mp unwrapped).1
  exact other (List.cons_eq_cons.mp wrapped).1

/-! ## Numbers -/

/-- A number without a sign begins with a digit. -/
theorem IsUnsigned.exists_cons {text : List Char} (unsigned : IsUnsigned text) :
    ∃ c rest, text = c :: rest ∧ c.isDigit = true := by
  have begins {whole : List Char} (something : whole ≠ [])
      (digits : ∀ c ∈ whole, c.isDigit = true) (places : List Char) :
      ∃ c rest, decimalText whole places = c :: rest ∧ c.isDigit = true := by
    obtain ⟨c, others, rfl⟩ := List.exists_cons_of_ne_nil something
    refine ⟨c, decimalText others places, ?_, digits c (by simp)⟩
    cases places <;> rfl
  cases unsigned with
  | number something wholeDigits placesDigits => exact begins something wholeDigits _
  | @percent _ places something wholeDigits placesDigits =>
    obtain ⟨c, rest, shown, digit⟩ := begins something wholeDigits places
    exact ⟨c, rest ++ ['%'], by rw [shown, List.cons_append], digit⟩

/-- **A sign in front** makes no difference to what is a number, if there is none yet. -/
theorem isPlainNumber_minus_cons {text : List Char} (unsigned : ∀ rest, text ≠ '-' :: rest) :
    isPlainNumber ('-' :: text) = isPlainNumber text := by
  have behind : behind? ['-'] ('-' :: text) = some text := behind?_eq_some_iff.mpr rfl
  have none : behind? ['-'] text = none := behind?_eq_none_iff.mpr unsigned
  unfold isPlainNumber
  rw [behind, none]
  rfl

/-- Behind the sign of a number comes a digit. -/
theorem exists_cons_of_isPlainNumber {text : List Char}
    (number : isPlainNumber ('-' :: text) = true) :
    ∃ c rest, text = c :: rest ∧ c.isDigit = true := by
  have isUnsigned := isUnsigned_of_isPlainNumber number
  rw [behind?_eq_some_iff.mpr (show '-' :: text = ['-'] ++ text from rfl), Option.getD_some]
    at isUnsigned
  exact isUnsigned.exists_cons

/-! ## The sign key -/

namespace Buffer

/-- **Each case of the sign key is undone by a case**: a sign that was put in front is taken off,
one that was taken off is put back where it had room, and a wrapper is taken off again. -/
theorem Toggles.restores {buffer next : Buffer} (toggles : buffer.Toggles next)
    (something : buffer.text ≠ []) (fits : buffer.length ≤ buffer.limit)
    (own : ClosesOwnParens buffer.text) (bare : unwrap? buffer.text = none) :
    next.Toggles buffer := by
  obtain ⟨text, limit⟩ := buffer
  cases toggles with
  | begun nothing => exact absurd nothing something
  | unwrapped wrapped => exact absurd wrapped (by simp [bare])
  | @unsigned unsigned _ number signed =>
    dsimp only at signed number
    subst signed
    obtain ⟨c, rest, begins, digit⟩ := exists_cons_of_isPlainNumber number
    have positive : ∀ behind, unsigned ≠ '-' :: behind := by
      rintro behind rfl
      obtain rfl := (List.cons_eq_cons.mp begins).1
      cases digit
    have bareNumber : unwrap? unsigned = none := by
      rw [begins]
      exact unwrap?_eq_none_of_cons (ne_of_isDigit digit rfl) rest
    rw [isPlainNumber_minus_cons positive] at number
    exact .signed bareNumber number positive fits
  | signed _ number positive room =>
    have still : isPlainNumber ('-' :: text) = true := by
      rw [isPlainNumber_minus_cons positive]
      exact number
    exact .unsigned (unwrap?_eq_none_of_cons (by decide) text) still rfl
  | wrapped _ _ other room =>
    exact .unwrapped (unwrap?_wrap (staysOpen_zero_iff.mpr own))

/-- **Two presses of the sign key restore the text**, finished or not. The text must not be empty,
must fit into the buffer, close only parentheses of its own, and be no wrapper; if the first press
is accepted, so is the second. -/
theorem toggleSign_toggleSign {buffer next : Buffer} (something : buffer.text ≠ [])
    (fits : buffer.length ≤ buffer.limit) (own : ClosesOwnParens buffer.text)
    (bare : unwrap? buffer.text = none) (toggled : buffer.toggleSign = (.ok (), next)) :
    next.toggleSign = (.ok (), buffer) :=
  toggleSign_eq_ok_iff.mpr
    ((toggleSign_eq_ok_iff.mp toggled).restores something fits own bare)

/-- `(2+`, unfinished and with a parenthesis open, is wrapped where the wrapper just fits, and comes
back. -/
theorem toggleSign_toggleSign_of_open_sum :
    let buffer : Buffer := ⟨['(', '2', '+'], 10⟩
    let next : Buffer := ⟨['(', '-', '1', ')', '*', '(', '(', '2', '+', ')'], 10⟩
    (buffer.text ≠ [] ∧ buffer.length ≤ buffer.limit ∧ ClosesOwnParens buffer.text ∧
      unwrap? buffer.text = none ∧ buffer.toggleSign = (.ok (), next)) ∧
      next.toggleSign = (.ok (), buffer) := by
  intro buffer next
  have something : buffer.text ≠ [] := by decide
  have fits : buffer.length ≤ buffer.limit := by decide
  have own : ClosesOwnParens buffer.text := staysOpen_zero_iff.mp rfl
  have bare : unwrap? buffer.text = none := rfl
  have toggled : buffer.toggleSign = (.ok (), next) := rfl
  exact ⟨⟨something, fits, own, bare, toggled⟩,
    toggleSign_toggleSign something fits own bare toggled⟩

end Buffer

end PocketCalc
