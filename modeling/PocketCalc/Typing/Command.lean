/-! # Commands

The keypad and the keyboard both reduce to one small set of commands.

* **`Command.ofChar?`** — the command of a typed character; other characters are ignored.
* **`Command.ofKey`** — the command of a named key. -/

namespace PocketCalc

/-- **An elementary action on the calculator.** -/
inductive Command where
  /-- Type a symbol. -/
  | symbol (character : Char)
  /-- Delete everything typed. -/
  | clear
  /-- Delete the last character. -/
  | backspace
  /-- Evaluate what is typed. -/
  | evaluate
  /-- Press the sign key. -/
  | toggleSign
  deriving DecidableEq, Repr

/-- A key of the keyboard that types no character. -/
inductive NamedKey where
  /-- The key that evaluates. -/
  | enter
  /-- The key that deletes the last character. -/
  | backspace
  /-- The key that deletes everything. -/
  | escape
  deriving DecidableEq, Repr

namespace Command

/-- The characters that type themselves, the keypad's glyphs among them. -/
def typedCharacters : List Char :=
  ['0', '1', '2', '3', '4', '5', '6', '7', '8', '9', '+', '-', '*', '/', '.', '(', ')', '%',
    '÷', '×', '−']

/-- The command of a typed character. A comma is a decimal point, an equals sign evaluates. -/
def ofChar? (character : Char) : Option Command :=
  if typedCharacters.contains character then some (symbol character)
  else if character = ',' then some (symbol '.')
  else if character = '=' then some evaluate
  else none

/-- The command of a named key. -/
def ofKey : NamedKey → Command
  | .enter => evaluate
  | .backspace => backspace
  | .escape => clear

end Command

end PocketCalc
