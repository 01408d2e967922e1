import PocketCalc.Decimal.Shortest

/-! # Tokens

An expression is read as a list of tokens: numerals, operators and parentheses. The sign `-` reads
as subtraction; which minus signs are negations is decided later, from what stands before them.

* **`Operation`** — the four operations, with their signs, their effect and their precedence.
* **`Token`** — a token, a numeral standing as the number that it names.
* **`Token.list`** — tokens in words. -/

namespace PocketCalc

/-- A binary operation. -/
inductive Operation where
  /-- Addition. -/
  | add
  /-- Subtraction. -/
  | subtract
  /-- Multiplication. -/
  | multiply
  /-- Division. -/
  | divide
  deriving DecidableEq, Repr

namespace Operation

/-- The sign of an operation. -/
def sign : Operation → Char
  | add => '+'
  | subtract => '-'
  | multiply => '*'
  | divide => '/'

/-- What an operation does to two numbers. -/
def apply : Operation → Binary64 → Binary64 → Binary64
  | add => (· + ·)
  | subtract => (· - ·)
  | multiply => (· * ·)
  | divide => (· / ·)

/-- How tightly an operation binds. -/
def precedence : Operation → Nat
  | add | subtract => 1
  | multiply | divide => 2

end Operation

/-- **A token of an expression.** -/
inductive Token where
  /-- A numeral, as the number it stands for. -/
  | number (value : Binary64)
  /-- The sign of a binary operation. -/
  | operation (operation : Operation)
  /-- A minus sign that negates what follows. -/
  | negate
  /-- An opening parenthesis. -/
  | opening
  /-- A closing parenthesis. -/
  | closing
  deriving DecidableEq

namespace Token

/-- The journal's word for a token. -/
def word : Token → List Char
  | number value => value.text
  | operation joining => [joining.sign]
  | negate => ['n', 'e', 'g']
  | opening => ['(']
  | closing => [')']

/-- Tokens in words, with a space between two. -/
def list (tokens : List Token) : List Char :=
  List.intercalate [' '] (tokens.map word)

end Token

end PocketCalc
