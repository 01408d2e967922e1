import PocketCalc.Expression.SyntaxError
import PocketCalc.Expression.Token
import PocketCalc.Text.Blank

/-! # Scanning a text

A numeral is a run of digits with at most one point and at least one digit; blanks only separate
tokens. Scanning goes through the text once and stops at the leftmost fault.

* **`numeralValue?`** — the number that a run of digits and points stands for.
* **`Token.scan`** — the tokens of a text, or the leftmost fault in it. -/

namespace PocketCalc

/-! ## Numerals -/

/-- A character that numerals are made of. -/
def isNumeralChar (c : Char) : Bool := c.isDigit || c == '.'

/-- The number that a numeral stands for: the nearest one to its digits, scaled by the number of
places after the point. There is none without a digit. -/
def numeralValue? (run : List Char) : Option Binary64 :=
  let whole := run.takeWhile Char.isDigit
  let places := (run.dropWhile Char.isDigit).drop 1
  if whole.isEmpty && places.isEmpty then none
  else some (Binary64.ofDecimal (Nat.ofDigitChars 10 (whole ++ places) 0) places.length)

/-- The token of a run of numeral characters; no run, no token. -/
def numeralToken (run : List Char) : Except SyntaxError (List Token) :=
  if run.isEmpty then .ok []
  else match numeralValue? run with
    | some value => .ok [.number value]
    | none => .error (.badNumeral run)

/-! ## Texts -/

namespace Token

/-- The token that a single character makes, if it makes one. -/
def ofChar? : Char → Option Token
  | '(' => some opening
  | ')' => some closing
  | '+' => some (operation .add)
  | '-' => some (operation .subtract)
  | '*' => some (operation .multiply)
  | '/' => some (operation .divide)
  | _ => none

/-- Scan a text behind a run of numeral characters that is not finished yet. A second point finishes
the run with a fault: the run is named if it has no digit, and else the run with the point. -/
def scanFrom (run : List Char) : List Char → Except SyntaxError (List Token)
  | [] => numeralToken run
  | c :: rest =>
    if isNumeralChar c then
      if c == '.' && run.contains '.' then
        match numeralValue? run with
        | some _ => .error (.badNumeral (run ++ ['.']))
        | none => .error (.badNumeral run)
      else scanFrom (run ++ [c]) rest
    else match numeralToken run with
      | .error fault => .error fault
      | .ok numeral =>
        if isBlank c then (scanFrom [] rest).map (numeral ++ ·)
        else match ofChar? c with
          | some token => (scanFrom [] rest).map (numeral ++ token :: ·)
          | none => .error (.unexpected c)

/-- **The tokens of a text**, or the leftmost fault in it. -/
def scan (text : List Char) : Except SyntaxError (List Token) := scanFrom [] text

end Token

end PocketCalc
