import PocketCalc.Typing.Admission

/-! # The expression buffer

The buffer holds the expression being typed and refuses every symbol that is not admitted. An
operation that may be refused gives its outcome, and beside it the buffer that it leaves in either
case. That a refusal leaves the buffer as it was is a property of the operation.

* **`Buffer.add`** — type a symbol; a point that opens a number is written `0.`.
* **`Buffer.add_eq_ok_iff`** — when typing succeeds, and what it writes.
* **`Buffer.add_eq_of_error`** — a symbol that is refused is not written.
* **`Buffer.backspace`**, **`Buffer.clear`**, **`Buffer.replace`** — the other changes. -/

namespace PocketCalc

/-- **The expression being typed**, and the number of characters it may have. -/
structure Buffer where
  /-- The characters typed so far, all plain. -/
  text : List Char
  /-- The greatest length to which typing extends the text. -/
  limit : Nat
  deriving DecidableEq, Repr

namespace Buffer

/-- A buffer in which nothing is typed yet. -/
def empty (limit : Nat) : Buffer := ⟨[], limit⟩

/-- The number of characters typed. -/
def length (buffer : Buffer) : Nat := buffer.text.length

/-- Nothing is typed. -/
def isEmpty (buffer : Buffer) : Bool := buffer.text.isEmpty

/-- Whether the symbol of a key may be typed next, with the reason if it may not. -/
def check (buffer : Buffer) (symbol : Char) : Except Refusal Unit :=
  if buffer.limit ≤ buffer.length then .error .tooLong
  else admission buffer.text (plain symbol)

/-- Whether the symbol of a key may be typed next. -/
def admits (buffer : Buffer) (symbol : Char) : Bool :=
  match buffer.check symbol with
  | .ok () => true
  | .error _ => false

/-- What is written for a symbol behind a text: a point that opens a number gets a zero. -/
def inserted (text : List Char) (symbol : Char) : List Char :=
  if symbol = '.' && (text.getLast?.isNone || text.getLast? == some '(') then ['0', '.']
  else [symbol]

/-- **Type a symbol**, if it may come next: whether it may, and the buffer afterwards. -/
def add (buffer : Buffer) (symbol : Char) : Except Refusal Unit × Buffer :=
  match buffer.check symbol with
  | .error refusal => (.error refusal, buffer)
  | .ok () => (.ok (), { buffer with text := buffer.text ++ inserted buffer.text (plain symbol) })

/-- **Typing succeeds exactly** while there is room and the plain symbol is admitted, and then it
appends what is written for the symbol. -/
theorem add_eq_ok_iff {buffer next : Buffer} {symbol : Char} :
    buffer.add symbol = (.ok (), next) ↔
      buffer.length < buffer.limit ∧ admission buffer.text (plain symbol) = .ok () ∧
        next = { buffer with text := buffer.text ++ inserted buffer.text (plain symbol) } := by
  unfold add check
  by_cases full : buffer.limit ≤ buffer.length
  · -- a full buffer refuses whatever is typed
    rw [if_pos full]
    have noRoom : ¬ buffer.length < buffer.limit := Nat.not_lt.mpr full
    simp [noRoom]
  · rw [if_neg full]
    have room : buffer.length < buffer.limit := Nat.lt_of_not_le full
    cases verdict : admission buffer.text (plain symbol) with
    | error refusal => simp
    | ok accepted => simp [room, eq_comm]

/-- **A symbol that is refused is not written.** -/
theorem add_eq_of_error {buffer next : Buffer} {symbol : Char} {refusal : Refusal}
    (refused : buffer.add symbol = (.error refusal, next)) : next = buffer := by
  unfold add at refused
  split at refused
  · exact (Prod.mk.inj refused).2.symm
  · cases refused

/-- Typing leaves the limit as it is. -/
@[simp] theorem limit_add (buffer : Buffer) (symbol : Char) :
    (buffer.add symbol).2.limit = buffer.limit := by
  unfold add
  split <;> rfl

/-- Delete the last character; nothing happens to an empty buffer. -/
def backspace (buffer : Buffer) : Buffer := { buffer with text := buffer.text.dropLast }

/-- Delete everything. -/
def clear (buffer : Buffer) : Buffer := { buffer with text := [] }

/-- Put another text in place, a result or a reloaded expression. -/
def replace (buffer : Buffer) (text : List Char) : Buffer := { buffer with text := text }

end Buffer

end PocketCalc
