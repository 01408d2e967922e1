import PocketCalc.Text.Bytes
import PocketCalc.Text.Hexadecimal

/-! # JSON strings

A JSON string is written between double quotes with as few escapes as the format allows, and read in
one pass over its characters. Where reading fails the first problem counts: the text ended too
early, or something stands where it cannot.

* **`Json.Fault`** — the three causes for which a JSON text is refused.
* **`Json.writeString`** — the JSON text of a string.
* **`Json.readString`** — the string behind an opening quote, and the text after it. -/

namespace PocketCalc.Json

/-- **Why a JSON text is refused.** -/
inductive Fault where
  /-- The text ends before the value does. -/
  | truncated
  /-- What stands at this point is no JSON. -/
  | malformed
  /-- The JSON is sound so far, but not what is expected: a wrong type or range, a field that is
  missing or stands twice. -/
  | mistyped
  deriving DecidableEq, Repr

/-- A reader takes a value off the front of a text, and returns the rest. -/
abbrev Reader (Value : Type) := List Char → Except Fault (Value × List Char)

/-! ## Writing -/

/-- A lower-case hexadecimal digit. -/
def hexDigit (value : Nat) : Char := Nat.digitChar value

/-- The escape of a control character without a short one. -/
def controlEscape (c : Char) : List Char :=
  ['\\', 'u', '0', '0', hexDigit (c.toNat / 16), hexDigit (c.toNat % 16)]

/-- The double quotation mark. -/
def quotationMark : Char := Char.ofNat 0x22

/-- The backspace control. -/
def backspace : Char := Char.ofNat 0x08

/-- The form feed control. -/
def formFeed : Char := Char.ofNat 0x0C

/-- A character inside a written string. -/
def writeChar (c : Char) : List Char :=
  if c = quotationMark then ['\\', quotationMark]
  else if c = '\\' then ['\\', '\\']
  else if c = backspace then ['\\', 'b']
  else if c = formFeed then ['\\', 'f']
  else if c = '\n' then ['\\', 'n']
  else if c = '\r' then ['\\', 'r']
  else if c = '\t' then ['\\', 't']
  else if c.toNat < 0x20 then controlEscape c
  else [c]

/-- **The JSON text of a string.** -/
def writeString (text : List Char) : List Char :=
  quotationMark :: text.flatMap writeChar ++ [quotationMark]

/-! ## Reading -/

/-- The character of an escape that has a single letter. -/
def shortEscape? (letter : Char) : Option Char :=
  if letter = quotationMark then some quotationMark
  else match letter with
    | '\\' => some '\\'
    | '/' => some '/'
    | 'b' => some backspace
    | 'f' => some formFeed
    | 'n' => some '\n'
    | 'r' => some '\r'
    | 't' => some '\t'
    | _ => none

/-- **Where a reader is inside a string.** -/
inductive StringPlace where
  /-- Between characters. -/
  | plain
  /-- Behind a backslash. -/
  | escape
  /-- Inside the four digits of a code: how many are still to come, the value so far, and the first
  half of a surrogate pair if this is the second one. -/
  | code (left value : Nat) (first : Option Nat)
  /-- Behind the first half of a surrogate pair. -/
  | pair (first : Nat)
  /-- Behind the backslash of the second half. -/
  | pairEscape (first : Nat)
  deriving DecidableEq, Repr

/-- Whether a code is the first half of a surrogate pair. -/
def isFirstHalf (code : Nat) : Bool := 0xD800 ≤ code && code ≤ 0xDBFF

/-- Whether a code is the second half of a surrogate pair. -/
def isSecondHalf (code : Nat) : Bool := 0xDC00 ≤ code && code ≤ 0xDFFF

/-- The character of a surrogate pair. -/
def pairChar (first second : Nat) : Char :=
  Char.ofNat (0x10000 + (first - 0xD800) * 0x400 + (second - 0xDC00))

/-- What follows the last digit of a code: a character to put down, or the wait for the second half
of a pair, or a fault. A lenient reader, which throws the string away, accepts every code. -/
def endCode (lenient : Bool) (code : Nat) (first : Option Nat) :
    Except Fault (List Char × StringPlace) :=
  if lenient then .ok ([], .plain)
  else match first with
    | some half =>
      if isSecondHalf code then .ok ([pairChar half code], .plain) else .error .malformed
    | none =>
      if isFirstHalf code then .ok ([], .pair code)
      else if isSecondHalf code then .error .malformed
      else .ok ([Char.ofNat code], .plain)

/-- Whether four bytes are left for the digits of a code; the text is at its end if not. -/
def roomForCode (rest : List Char) : Bool := 4 ≤ byteCount (rest.take 4)

/-- Put characters in front of what a reader of strings returns. -/
def prepend (characters : List Char) (result : Except Fault (List Char × List Char)) :
    Except Fault (List Char × List Char) :=
  result.map fun (text, rest) => (characters ++ text, rest)

/-- Read on in a string from a place inside it. -/
def readStringFrom (lenient : Bool) (place : StringPlace) : Reader (List Char)
  | [] => .error .truncated
  | c :: rest =>
    match place with
    | .plain =>
      if c = quotationMark then .ok ([], rest)
      else if c = '\\' then readStringFrom lenient .escape rest
      else if c.toNat < 0x20 then .error .malformed
      else prepend [c] (readStringFrom lenient .plain rest)
    | .escape =>
      if c = 'u' then
        if roomForCode rest then readStringFrom lenient (.code 4 0 none) rest
        else .error .truncated
      else match shortEscape? c with
        | some character => prepend [character] (readStringFrom lenient .plain rest)
        | none => .error .malformed
    | .code left value first =>
      match hexValue? c with
      | none => .error .malformed
      | some digit =>
        let code := value * 16 + digit
        if left ≤ 1 then
          match endCode lenient code first with
          | .error fault => .error fault
          | .ok (characters, next) => prepend characters (readStringFrom lenient next rest)
        else readStringFrom lenient (.code (left - 1) code first) rest
    | .pair first =>
      if c = '\\' then readStringFrom lenient (.pairEscape first) rest else .error .malformed
    | .pairEscape first =>
      if c = 'u' then
        if roomForCode rest then readStringFrom lenient (.code 4 0 (some first)) rest
        else .error .truncated
      else .error .malformed

/-- **The string behind an opening quotation mark**, and the text behind the closing one. -/
def readString : Reader (List Char) := readStringFrom false .plain

/-- The text behind a string that is thrown away. Half a surrogate pair is no fault in it. -/
def skipString (text : List Char) : Except Fault (List Char) :=
  (readStringFrom true .plain text).map Prod.snd

end PocketCalc.Json
