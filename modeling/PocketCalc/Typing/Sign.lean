import PocketCalc.Typing.Buffer

/-! # The sign key

The sign key negates the whole expression by editing its text. A wrapped expression `(-1)*(x)` is
unwrapped to `x`; a plain number gains or loses a leading minus sign; anything else, finished or
not, is wrapped. The cases are tried in this order, so a wrapped text is always unwrapped by the
next press.

* **`unwrap?`** — the inside of a wrapper whose closing parenthesis belongs to it.
* **`unwrap?_wrap`** — a wrapped text is unwrapped to itself.
* **`isPlainNumber`** — digits with an optional sign, fraction and percent sign.
* **`Buffer.toggleSign`** — press the sign key. -/

namespace PocketCalc

/-- What stands before a wrapped expression. -/
def wrapperStart : List Char := ['(', '-', '1', ')', '*', '(']

/-- An expression inside its wrapper. -/
def wrap (text : List Char) : List Char := wrapperStart ++ text ++ [')']

/-- Whether no parenthesis closes that `depth` opening ones before the text, or ones inside it, have
not opened. -/
def staysOpen (depth : Nat) : List Char → Bool
  | [] => true
  | c :: rest =>
    if c = '(' then staysOpen (depth + 1) rest
    else if c = ')' then
      match depth with
      | 0 => false
      | below + 1 => staysOpen below rest
    else staysOpen depth rest

/-- The text behind a given start, if it begins with it. -/
def behind? (start text : List Char) : Option (List Char) :=
  if start.isPrefixOf text then some (text.drop start.length) else none

/-- The text before its last character, if that is the given one. -/
def before? (last : Char) (text : List Char) : Option (List Char) :=
  if text.getLast? = some last then some text.dropLast else none

/-- **The inside of a wrapper.** The parenthesis that the wrapper opens must not be closed inside,
so `(-1)*(2)+(3)` is no wrapper; an inside that leaves parentheses open is accepted. -/
def unwrap? (text : List Char) : Option (List Char) := do
  let tail ← behind? wrapperStart text
  let inside ← before? ')' tail
  if staysOpen 0 inside then some inside else none

/-- **A wrapped text is unwrapped to itself**, if no parenthesis in it closes one outside. -/
theorem unwrap?_wrap {text : List Char} (inside : staysOpen 0 text = true) :
    unwrap? (wrap text) = some text := by
  have start : behind? wrapperStart (wrap text) = some (text ++ [')']) := by
    simp [behind?, wrap, wrapperStart]
  have finish : before? ')' (text ++ [')']) = some text := by
    simp [before?]
  rw [unwrap?, start]
  simp [finish, inside]

/-- One or more digits. -/
def isDigits (text : List Char) : Bool := !text.isEmpty && text.all Char.isDigit

/-- **A number and nothing else**: a sign or none, digits, a fraction or none, a percent sign or
none. -/
def isPlainNumber (text : List Char) : Bool :=
  let unsigned := (behind? ['-'] text).getD text
  let bare := (before? '%' unsigned).getD unsigned
  let whole := bare.takeWhile (· != '.')
  match bare.dropWhile (· != '.') with
  | [] => isDigits whole
  | _ :: fraction => isDigits whole && isDigits fraction

namespace Buffer

/-- Whether there is room for more characters. -/
def checkRoom (buffer : Buffer) (added : Nat) : Except Refusal Unit :=
  if buffer.limit < buffer.length + added then .error .tooLong else .ok ()

/-- **Press the sign key**: whether the edit has room, and the buffer afterwards. -/
def toggleSign (buffer : Buffer) : Except Refusal Unit × Buffer :=
  if buffer.text.isEmpty then (.ok (), { buffer with text := ['-'] })
  else match unwrap? buffer.text with
    | some inside => (.ok (), { buffer with text := inside })
    | none =>
      if isPlainNumber buffer.text then
        match behind? ['-'] buffer.text with
        | some unsigned => (.ok (), { buffer with text := unsigned })
        | none =>
          match buffer.checkRoom 1 with
          | .error refusal => (.error refusal, buffer)
          | .ok () => (.ok (), { buffer with text := '-' :: buffer.text })
      else
        match buffer.checkRoom (wrapperStart.length + 1) with
        | .error refusal => (.error refusal, buffer)
        | .ok () => (.ok (), { buffer with text := wrap buffer.text })

end Buffer

end PocketCalc
