import PocketCalc.Expression.Symbol

/-! # Admission of symbols

A symbol may be typed behind a text only if the text can still be finished afterwards. What may
follow depends on the last character, on the numeral being typed and on the number of open
parentheses.

* **`Refusal`** — the reasons for refusing a symbol, with their words.
* **`admission`** — whether a symbol may follow a text, and if not, why not. -/

namespace PocketCalc

/-- **Why a symbol is refused.** -/
inductive Refusal where
  /-- The buffer is full. -/
  | tooLong
  /-- A point in a numeral that has one, or behind a closing parenthesis. -/
  | misplacedPoint
  /-- A percent sign with no value before it. -/
  | misplacedPercent
  /-- An opening parenthesis right behind a value. -/
  | impliedProduct
  /-- A closing parenthesis with none open. -/
  | nothingToClose
  /-- A closing parenthesis with no value before it. -/
  | misplacedClosing
  /-- An operator at the start. -/
  | missingNumber
  /-- An operator behind an operator. -/
  | misplacedOperator
  /-- An operator behind an opening parenthesis. -/
  | operatorAfterOpening
  /-- An operator behind a point. -/
  | operatorAfterPoint
  /-- A character that expressions do not have. -/
  | forbidden (character : Char)
  deriving DecidableEq, Repr

/-- The words in which the calculator reports a refusal. -/
def Refusal.message : Refusal → String
  | tooLong => "Trop long"
  | misplacedPoint => "Invalide"
  | misplacedPercent => "% invalide"
  | impliedProduct => "Utilisez * pour ×"
  | nothingToClose => "Pas de ( ouvrante"
  | misplacedClosing => "Invalide )"
  | missingNumber => "Commencez par un nombre"
  | misplacedOperator => "Opérateur invalide"
  | operatorAfterOpening => "Invalide après ("
  | operatorAfterPoint => "Invalide"
  | forbidden _ => "Invalide"

/-! ## The rules -/

/-- A character that ends the numeral being typed. -/
def endsNumeral (c : Char) : Bool :=
  isOperator c || c == '(' || c == ')' || c == ' '

/-- The numeral being typed at the end of a text, last character first. -/
def currentNumeral (text : List Char) : List Char :=
  text.reverse.takeWhile (fun c => !endsNumeral c)

/-- Whether a value ends with this last character: not at the start, and not behind an opening
parenthesis, a point or an operator. -/
def endsValue : Option Char → Bool
  | none => false
  | some c => !(c == '(' || c == '.' || isOperator c)

/-- Admission of a point. -/
def admitPoint (text : List Char) : Except Refusal Unit :=
  if (currentNumeral text).contains '.' || text.getLast? == some ')' then .error .misplacedPoint
  else .ok ()

/-- Admission of a percent sign: behind a value, and not behind another percent sign. -/
def admitPercent (text : List Char) : Except Refusal Unit :=
  if endsValue text.getLast? && text.getLast? != some '%' then .ok ()
  else .error .misplacedPercent

/-- Admission of an opening parenthesis: at the start, and behind one or behind an operator. -/
def admitOpening (text : List Char) : Except Refusal Unit :=
  match text.getLast? with
  | none => .ok ()
  | some c => if c == '(' || isOperator c then .ok () else .error .impliedProduct

/-- Admission of a closing parenthesis: one is open, and a value stands before it. -/
def admitClosing (text : List Char) : Except Refusal Unit :=
  if openParens text ≤ 0 then .error .nothingToClose
  else if endsValue text.getLast? then .ok ()
  else .error .misplacedClosing

/-- Admission of an operator: behind a value; the minus sign also as a negation, at the start,
behind an opening parenthesis and behind another operator than itself. -/
def admitOperator (text : List Char) (operator : Char) : Except Refusal Unit :=
  match text.getLast? with
  | none => if operator == '-' then .ok () else .error .missingNumber
  | some c =>
    if isOperator c then
      if operator == '-' && c != '-' then .ok () else .error .misplacedOperator
    else if c == '(' then
      if operator == '-' then .ok () else .error .operatorAfterOpening
    else if c == '.' then .error .operatorAfterPoint
    else .ok ()

/-- **Whether a plain symbol may follow a text**, with the reason if it may not. -/
def admission (text : List Char) (symbol : Char) : Except Refusal Unit :=
  if symbol.isDigit then .ok ()
  else if symbol = '.' then admitPoint text
  else if symbol = '%' then admitPercent text
  else if symbol = '(' then admitOpening text
  else if symbol = ')' then admitClosing text
  else if isOperator symbol then admitOperator text symbol
  else .error (.forbidden symbol)

/-- A digit is always admitted. -/
theorem admission_of_isDigit {symbol : Char} (digit : symbol.isDigit = true) (text : List Char) :
    admission text symbol = .ok () := by
  simp [admission, digit]

end PocketCalc
