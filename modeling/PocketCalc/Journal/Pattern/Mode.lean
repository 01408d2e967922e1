import PocketCalc.Text.Blank

/-! # Modes of a pattern

A pattern, a regular expression, may change how the text behind a place in it is to be read: with
blanks and comments between its items, without regard to the case of letters, and byte by byte.

* **`Journal.Pattern.Mode`** — the modes in force at a place.
* **`Journal.Pattern.Mode.skip`** — the text without the layout at its start. -/

namespace PocketCalc.Journal.Pattern

/-- **The modes in force at a place of a pattern.** -/
structure Mode where
  /-- Blanks are layout, and a number sign begins a comment. -/
  spaced : Bool
  /-- Letters stand for their other case as well. -/
  caseless : Bool
  /-- Items stand for bytes and not for characters. -/
  bytewise : Bool
  deriving DecidableEq, Repr

namespace Mode

/-- The modes at the start of a pattern. -/
def standard : Mode := ⟨false, false, false⟩

/-- The letters of modes: those of the structure, `u` for the opposite of the last, and those that
decide only what a pattern matches. -/
def letters : List Char := ['x', 'i', 'u', 'm', 's', 'U', 'R']

/-- The modes after the one of a letter is turned on or off. -/
def turn (mode : Mode) (letter : Char) (on : Bool) : Mode :=
  match letter with
  | 'x' => { mode with spaced := on }
  | 'i' => { mode with caseless := on }
  | 'u' => { mode with bytewise := !on }
  | _ => mode

/-- A text without the blanks and the comments at its start; `comment` says that it starts within
one. -/
def skipLayout (comment : Bool) : List Char → List Char
  | [] => []
  | c :: rest =>
    if comment then skipLayout (c != '\n') rest
    else if isBlank c then skipLayout false rest
    else if c = '#' then skipLayout true rest
    else c :: rest

/-- **The text without the layout at its start.** -/
def skip (mode : Mode) (text : List Char) : List Char :=
  if mode.spaced then skipLayout false text else text

/-- The character that is taken to come next when a hyphen in a class has been read: the one behind
blanks and at most one number sign, if there is any, and else the very next. -/
def glance? (mode : Mode) (text : List Char) : Option Char :=
  if mode.spaced then
    let behind := match text.dropWhile isBlank with
      | '#' :: rest => rest.dropWhile isBlank
      | rest => rest
    behind.head?.or text.head?
  else text.head?

end Mode

end PocketCalc.Journal.Pattern
