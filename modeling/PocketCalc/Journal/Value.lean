import PocketCalc.Journal.Pattern.Basic

/-! # Values in a filter

A filter asks for the value of a field by a number or by a pattern.

* **`Journal.isNumber`** — the form of a number.
* **`Journal.isValue`** — the form of a value. -/

namespace PocketCalc.Journal

/-- A text without a sign at its start. -/
def unsigned : List Char → List Char
  | '+' :: rest => rest
  | '-' :: rest => rest
  | text => text

/-- Whether a text is an exponent of ten or nothing. -/
def isExponent : List Char → Bool
  | [] => true
  | c :: rest =>
    (c == 'e' || c == 'E') && !(unsigned rest).isEmpty && (unsigned rest).all Char.isDigit

/-- The words for what is no finite number. -/
def numberWords : List (List Char) := ["inf", "infinity", "nan"].map String.toList

/-- **Whether a text is a number**: perhaps a sign, then a word of `numberWords` in any case or
digits with at most one point among or beside them, and perhaps an exponent. -/
def isNumber (text : List Char) : Bool :=
  let size := unsigned text
  let whole := size.takeWhile Char.isDigit
  let (places, behind) := match size.dropWhile Char.isDigit with
    | '.' :: rest => rest.span Char.isDigit
    | rest => ([], rest)
  numberWords.contains (size.map Char.toLower) ||
    (!(whole ++ places).isEmpty && isExponent behind)

/-- **Whether a text can be asked for as a value.** -/
def isValue (text : List Char) : Bool := isNumber text || Pattern.wellFormed text

end PocketCalc.Journal
