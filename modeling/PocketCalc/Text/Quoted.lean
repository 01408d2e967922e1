import PocketCalc.Text.Hidden

/-! # Quoted text

Error messages and the journal quote a key, a text or a character so that nothing in it is
invisible: quotes and backslashes are escaped, a few controls have a short escape, and every hidden
character stands as its code point in braces.

* **`quoted`** — a text between double quotes.
* **`quotedChar`** — a character between single quotes. -/

namespace PocketCalc

/-- A code point in hexadecimal, as an escape. -/
def codeEscape (c : Char) : List Char :=
  '\\' :: 'u' :: '{' :: Nat.toDigits 16 c.toNat ++ ['}']

/-- A character of quoted text; `quote` is the quotation mark that must be escaped. -/
def escaped (quote c : Char) : List Char :=
  if c = Char.ofNat 0 then ['\\', '0']
  else if c = '\t' then ['\\', 't']
  else if c = '\r' then ['\\', 'r']
  else if c = '\n' then ['\\', 'n']
  else if c = '\\' then ['\\', '\\']
  else if c = quote then ['\\', quote]
  else if isHidden c then codeEscape c
  else [c]

/-- The double quotation mark. -/
def doubleQuote : Char := Char.ofNat 34

/-- The single quotation mark. -/
def singleQuote : Char := Char.ofNat 39

/-- **A text between double quotes**, with escapes. -/
def quoted (text : List Char) : List Char :=
  doubleQuote :: text.flatMap (escaped doubleQuote) ++ [doubleQuote]

/-- **A character between single quotes**, with escapes. -/
def quotedChar (c : Char) : List Char :=
  singleQuote :: escaped singleQuote c ++ [singleQuote]

end PocketCalc
