import PocketCalc.Expression.Postfix

/-! # Expressions

An expression is a tree of operations over numbers. It is rebuilt from postfix order with a stack of
finished trees, valued with binary64 arithmetic and written with all its parentheses. Division by
zero is no fault of a tree: its value is infinite or not a number.

* **`Expression.postorder`** — the tokens of a tree, operands before operations.
* **`Expression.ofPostfix`** — the tree of a postfix order.
* **`Expression.ofPostfix_postorder`** — a tree is rebuilt from its own postorder. -/

namespace PocketCalc

/-- **An arithmetic expression.** -/
inductive Expression where
  /-- A number. -/
  | number (value : Binary64)
  /-- The negation of an expression. -/
  | negate (operand : Expression)
  /-- An operation on two expressions. -/
  | apply (operation : Operation) (left right : Expression)
  deriving DecidableEq

namespace Expression

/-- **The value of an expression.** -/
def value : Expression → Binary64
  | number value => value
  | negate operand => -operand.value
  | apply operation left right => operation.apply left.value right.value

/-! ## The written form -/

/-- The text of an expression in front of what follows it, so that a text of any depth is built in
one pass. -/
def textBefore : Expression → List Char → List Char
  | number value, rest => value.text ++ rest
  | negate operand, rest => '-' :: '(' :: operand.textBefore (')' :: rest)
  | apply operation left right, rest =>
    '(' :: left.textBefore (operation.sign :: right.textBefore (')' :: rest))

/-- **The text of an expression** with a pair of parentheses for every operation. -/
def text (expression : Expression) : List Char := expression.textBefore []

/-- What follows an expression does not change its text. -/
theorem textBefore_eq (expression : Expression) (rest : List Char) :
    expression.textBefore rest = expression.text ++ rest := by
  unfold text
  induction expression generalizing rest with
  | number value => simp [textBefore]
  | negate operand ih =>
    rw [textBefore, textBefore, ih, ih [')']]
    simp
  | apply operation left right ihLeft ihRight =>
    rw [textBefore, textBefore, ihRight, ihLeft, ihRight [')'], ihLeft (operation.sign :: _)]
    simp

/-- A number is written as itself. -/
@[simp] theorem text_number (value : Binary64) : (number value).text = value.text := by
  simp [text, textBefore]

/-- A negation is written with a minus sign and its operand in parentheses. -/
@[simp] theorem text_negate (operand : Expression) :
    (negate operand).text = '-' :: '(' :: operand.text ++ [')'] := by
  simp [text.eq_1 (negate operand), textBefore, textBefore_eq]

/-- An operation is written in parentheses. -/
@[simp] theorem text_apply (operation : Operation) (left right : Expression) :
    (apply operation left right).text =
      '(' :: left.text ++ operation.sign :: right.text ++ [')'] := by
  simp [text.eq_1 (apply operation left right), textBefore, textBefore_eq]

/-! ## Postfix order -/

/-- **The postorder of an expression**: operands from left to right, then the operation. -/
def postorder : Expression → List Token
  | number value => [.number value]
  | negate operand => operand.postorder ++ [.negate]
  | apply operation left right => left.postorder ++ right.postorder ++ [.operation operation]

/-- Rebuild a tree from the tokens still to come, above a stack of finished trees. -/
def ofPostfixFrom (finished : List Expression) : List Token → Except SyntaxError Expression
  | [] =>
    match finished with
    | [only] => .ok only
    | _ => .error .notOneValue
  | .number value :: rest => ofPostfixFrom (number value :: finished) rest
  | .negate :: rest =>
    match finished with
    | operand :: below => ofPostfixFrom (negate operand :: below) rest
    | [] => .error .missingOperand
  | .operation operation :: rest =>
    -- the right operand was finished last, so it is on top
    match finished with
    | right :: left :: below => ofPostfixFrom (apply operation left right :: below) rest
    | _ => .error .missingOperand
  | .opening :: _ => .error .notOneValue
  | .closing :: _ => .error .notOneValue

/-- **The tree of a postfix order.** -/
def ofPostfix (tokens : List Token) : Except SyntaxError Expression := ofPostfixFrom [] tokens

/-- A postorder puts its tree on the stack, whatever follows. -/
theorem ofPostfixFrom_postorder_append (expression : Expression) (finished : List Expression)
    (rest : List Token) :
    ofPostfixFrom finished (expression.postorder ++ rest) =
      ofPostfixFrom (expression :: finished) rest := by
  induction expression generalizing finished rest with
  | number value => rfl
  | negate operand ih => simp [postorder, ih, ofPostfixFrom]
  | apply operation left right ihLeft ihRight =>
    simp [postorder, ihLeft, ihRight, ofPostfixFrom]

/-- A tree is rebuilt from its own postorder. -/
theorem ofPostfix_postorder (expression : Expression) :
    ofPostfix expression.postorder = .ok expression := by
  have whole := ofPostfixFrom_postorder_append expression [] []
  rw [List.append_nil] at whole
  rw [ofPostfix, whole]
  rfl

end Expression

end PocketCalc
