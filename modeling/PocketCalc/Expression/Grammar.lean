import PocketCalc.Expression.Basic

/-! # The grammar of expressions

Precedence and associativity, said without a stack: a sum is a sum plus or minus a term, a term is a
term times or over a factor, and a factor is a negated factor, a number or a sum in parentheses.
Because the left operand has the rank of the whole and the right one a lower rank, operations of one
precedence associate to the left.

* **`Derives`** — which tokens stand for which tree, at each rank.
* **`Derives.sum_of_factor`** — what is a factor is also a sum. -/

namespace PocketCalc

/-- **The ranks of the grammar**, from the tightest on. -/
inductive Rank where
  /-- A number, a negation or a group in parentheses. -/
  | factor
  /-- Factors joined by multiplication and division. -/
  | term
  /-- Terms joined by addition and subtraction. -/
  | sum
  deriving DecidableEq, Repr

/-- **Derivability.** `Derives rank tokens expression` says that the grammar reads the tokens, as
they are scanned, as that expression. A negation is written with the sign of subtraction, and
parentheses leave no trace in the tree. -/
inductive Derives : Rank → List Token → Expression → Prop where
  /-- A number stands for itself. -/
  | number (value : Binary64) : Derives .factor [.number value] (.number value)
  /-- A minus sign negates the factor behind it. -/
  | negate {tokens : List Token} {operand : Expression} (factor : Derives .factor tokens operand) :
      Derives .factor (.operation .subtract :: tokens) (.negate operand)
  /-- A sum in parentheses is a factor. -/
  | group {tokens : List Token} {inside : Expression} (sum : Derives .sum tokens inside) :
      Derives .factor (.opening :: tokens ++ [.closing]) inside
  /-- A factor alone is a term. -/
  | ofFactor {tokens : List Token} {expression : Expression}
      (factor : Derives .factor tokens expression) : Derives .term tokens expression
  /-- A term times or over a factor is a term. -/
  | multiplicative {operation : Operation} {leftTokens rightTokens : List Token}
      {left right : Expression} (binds : operation.precedence = 2)
      (term : Derives .term leftTokens left) (factor : Derives .factor rightTokens right) :
      Derives .term (leftTokens ++ .operation operation :: rightTokens)
        (.apply operation left right)
  /-- A term alone is a sum. -/
  | ofTerm {tokens : List Token} {expression : Expression}
      (term : Derives .term tokens expression) : Derives .sum tokens expression
  /-- A sum plus or minus a term is a sum. -/
  | additive {operation : Operation} {leftTokens rightTokens : List Token}
      {left right : Expression} (binds : operation.precedence = 1)
      (sum : Derives .sum leftTokens left) (term : Derives .term rightTokens right) :
      Derives .sum (leftTokens ++ .operation operation :: rightTokens)
        (.apply operation left right)

/-- Tokens that are an expression of the grammar. -/
def IsGrammatical (tokens : List Token) : Prop := ∃ expression, Derives .sum tokens expression

namespace Derives

/-- A factor alone is a sum. -/
theorem sum_of_factor {tokens : List Token} {expression : Expression}
    (factor : Derives .factor tokens expression) : Derives .sum tokens expression :=
  .ofTerm (.ofFactor factor)

end Derives

end PocketCalc
