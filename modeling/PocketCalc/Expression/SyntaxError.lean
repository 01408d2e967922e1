/-! # Faults of form

A text that is no expression is refused with the cause of the fault; the words for it are chosen
here and nowhere else. -/

namespace PocketCalc

/-- **What is wrong with the form of an expression.** -/
inductive SyntaxError where
  /-- A character that belongs to no token. -/
  | unexpected (character : Char)
  /-- A run of digits and points that is no numeral. -/
  | badNumeral (text : List Char)
  /-- A closing parenthesis without an opening one. -/
  | unopened
  /-- An opening parenthesis without a closing one. -/
  | unclosed
  /-- An operation that lacks an operand. -/
  | missingOperand
  /-- Operands that no operation joins, or none at all. -/
  | notOneValue
  deriving DecidableEq, Repr

/-- The words in which the fault is reported. -/
def SyntaxError.message : SyntaxError → String
  | unexpected character => "caractère inattendu: '" ++ String.singleton character ++ "'"
  | badNumeral text => "nombre invalide: \"" ++ String.ofList text ++ "\""
  | unopened => "parenthèse fermante sans ouvrante"
  | unclosed => "parenthèses non fermées"
  | missingOperand => "opérande manquant"
  | notOneValue => "expression invalide"

end PocketCalc
