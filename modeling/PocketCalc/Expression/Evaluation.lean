import PocketCalc.Expression.Basic
import PocketCalc.Expression.Symbol
import PocketCalc.Expression.Token.Scan
import PocketCalc.Decimal.Significant

/-! # Evaluation

The text of the buffer is evaluated in stages: glyphs and percent signs are replaced, characters
are checked, parentheses are counted, the end is checked for completeness, and only then is the text
parsed and valued. The first stage that objects gives the verdict. A blank text is no fault; it has
no result.

* **`normalize`** — glyphs become operators, and every percent sign becomes `*0.01`.
* **`parse`**, **`compute`** — tree and value of a normalized text.
* **`prepare`** — the checks that come before parsing.
* **`evaluate`** — the result of a text, in its canonical form. -/

namespace PocketCalc

/-- **Why a text has no result.** -/
inductive EvalError where
  /-- The text is no expression. -/
  | malformed (cause : SyntaxError)
  /-- Opening and closing parentheses differ in number. -/
  | unbalanced
  /-- The text ends where an operand must follow. -/
  | incomplete
  /-- The value is infinite or not a number. -/
  | arithmetic
  deriving DecidableEq, Repr

/-- The words in which the calculator reports the verdict. -/
def EvalError.message : EvalError → String
  | malformed _ => "Erreur"
  | unbalanced => "() déséquilibrées"
  | incomplete => "Incomplet"
  | arithmetic => "Erreur"

/-- What a percent sign stands for: a product with one hundredth. -/
def percentText : List Char := ['*', '0', '.', '0', '1']

/-- **The normalized text**: ASCII operators for glyphs, a product for every percent sign. -/
def normalize (text : List Char) : List Char :=
  (plainText text).flatMap fun c => if c = '%' then percentText else [c]

/-- Normalizing works character by character. -/
theorem normalize_append (first second : List Char) :
    normalize (first ++ second) = normalize first ++ normalize second := by
  simp [normalize, plainText]

/-- A character that a normalized expression may contain. -/
def isExpressionChar (c : Char) : Bool :=
  c.isDigit || isOperator c || c == '(' || c == ')' || c == '.' || isBlank c

/-- Whether a text with this last character still needs an operand. -/
def endsIncomplete (last : Option Char) : Bool :=
  match last with
  | none => true
  | some c => c == '(' || c == '.' || isOperator c

/-- The tree of a normalized text. -/
def parse (normalized : List Char) : Except SyntaxError Expression := do
  let tokens ← Token.scan normalized
  let ordered ← toPostfix tokens
  Expression.ofPostfix ordered

/-- The value of a normalized text. -/
def compute (normalized : List Char) : Except SyntaxError Binary64 := do
  let expr ← parse normalized
  return expr.value

/-- **The checks before parsing**: nothing for a blank text, and for any other the normalized text,
if it has no foreign character, as many closing as opening parentheses and a complete end. -/
def prepare (text : List Char) : Except EvalError (Option (List Char)) :=
  let trimmed := trim text
  let normalized := normalize text
  if trimmed.isEmpty then .ok none
  else match normalized.find? (fun c => !isExpressionChar c) with
    | some foreign => .error (.malformed (.unexpected foreign))
    | none =>
      if openParens text ≠ 0 then .error .unbalanced
      else if endsIncomplete (plainText trimmed).getLast? then .error .incomplete
      else .ok (some normalized)

/-- The result text of a value; a value that is not finite has none. -/
def Binary64.result : Binary64 → Except EvalError (List Char)
  | .finite negative magnitude => .ok (resultText negative magnitude)
  | _ => .error .arithmetic

/-- **The result of a text.** A blank text has none; any other has a canonical result text or a
reason why not. -/
def evaluate (text : List Char) : Except EvalError (Option (List Char)) :=
  match prepare text with
  | .error verdict => .error verdict
  | .ok none => .ok none
  | .ok (some normalized) =>
    match compute normalized with
    | .error cause => .error (.malformed cause)
    | .ok value => value.result.map some

end PocketCalc
