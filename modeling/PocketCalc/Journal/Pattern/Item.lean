import PocketCalc.Journal.Pattern.Mode
import PocketCalc.Text.Hexadecimal

/-! # Items of a pattern

The smallest parts of a pattern stand for a character, for one of a kind of characters, or for a
place of the text. Kinds, word borders and other cases would need tables of all characters; there
are none, so they are known of bytes only. And no item may stand for a byte that is not a whole
character.

* **`Journal.Pattern.Item.escaped?`** — the item behind a backslash.
* **`Journal.Pattern.Item.allowed`**, **`Journal.Pattern.Item.allowedInClass`** — which items may
  stand where. -/

namespace PocketCalc.Journal.Pattern

/-- **An item.** -/
inductive Item where
  /-- A character. -/
  | character (c : Char)
  /-- A character or a byte that is written by two hexadecimal digits. -/
  | byte (value : Nat)
  /-- Any character. -/
  | any
  /-- A digit, a blank or a character of a word, or anything else. -/
  | kind (negated : Bool)
  /-- The border of a word. -/
  | border
  /-- The start or the end of the text or of a line. -/
  | edge
  deriving DecidableEq, Repr

namespace Item

/-! ## Reading -/

/-- The number that some hexadecimal digits write, with the text behind them. Layout may stand
behind each digit. -/
def hexNumber? (mode : Mode) : Nat → Nat → List Char → Option (Nat × List Char)
  | 0, value, text => some (value, text)
  | count + 1, value, text =>
    match text with
    | [] => none
    | c :: rest =>
      (hexValue? c).bind fun digit => hexNumber? mode count (16 * value + digit) (mode.skip rest)

/-- The character that some hexadecimal digits write. -/
def hexCharacter? (mode : Mode) (count : Nat) (text : List Char) : Option (Item × List Char) :=
  (hexNumber? mode count 0 (mode.skip text)).bind fun (value, rest) =>
    if value.isValidChar then some (.character (Char.ofNat value), rest) else none

/-- The letters for control characters behind a backslash. -/
def controls : List (Char × Char) :=
  [('a', '\x07'), ('t', '\t'), ('n', '\n'), ('v', '\x0b'), ('f', '\x0c'), ('r', '\r')]

/-- An ASCII sign, which stands for itself behind a backslash. -/
def isSign (c : Char) : Bool := c.toNat < 128 && !c.isAlphanum

/-- **The item behind a backslash**, with the text behind it. -/
def escaped? (mode : Mode) : List Char → Option (Item × List Char)
  | [] => none
  | c :: rest =>
    match c with
    | 'x' => (hexNumber? mode 2 0 (mode.skip rest)).map fun (value, behind) => (.byte value, behind)
    | 'u' => hexCharacter? mode 4 rest
    | 'U' => hexCharacter? mode 8 rest
    | 'd' | 's' | 'w' => some (.kind false, rest)
    | 'D' | 'S' | 'W' => some (.kind true, rest)
    | 'b' | 'B' | '<' | '>' => some (.border, rest)
    | 'A' | 'z' => some (.edge, rest)
    | _ =>
      match controls.lookup c with
      | some control => some (.character control, rest)
      | none => if isSign c then some (.character c, rest) else none

/-- The item at the start of a text outside of classes. -/
def read? (mode : Mode) : List Char → Option (Item × List Char)
  | [] => none
  | '\\' :: rest => escaped? mode rest
  | '.' :: rest => some (.any, rest)
  | '^' :: rest => some (.edge, rest)
  | '$' :: rest => some (.edge, rest)
  | c :: rest => some (.character c, rest)

/-- The item at the start of a text inside of a class. -/
def readInClass? (mode : Mode) : List Char → Option (Item × List Char)
  | [] => none
  | '\\' :: rest => escaped? mode rest
  | c :: rest => some (.character c, rest)

/-! ## Where items may stand -/

/-- Whether an item may stand outside of classes. -/
def allowed (mode : Mode) : Item → Bool
  | character _ => mode.bytewise || !mode.caseless
  | byte value => if mode.bytewise then value < 128 else !mode.caseless
  | any => !mode.bytewise
  | kind negated => mode.bytewise && !negated
  | border => mode.bytewise
  | edge => true

/-- Whether an item may stand inside of a class. -/
def allowedInClass (mode : Mode) : Item → Bool
  | character c => if mode.bytewise then c.toNat < 128 else !mode.caseless
  | byte value => if mode.bytewise then value < 128 else !mode.caseless
  | kind negated => mode.bytewise && !negated
  | _ => false

/-- The code of an item that stands for one character or byte and may be the end of a range. -/
def code? : Item → Option Nat
  | character c => some c.toNat
  | byte value => some value
  | _ => none

end Item

end PocketCalc.Journal.Pattern
