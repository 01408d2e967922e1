import PocketCalc.Decimal.Basic
import PocketCalc.Binary64.Magnitude

/-! # Decimal expansions

The digits of a result are not computed but read off a text, in which its magnitude is written with
an exponent and with so many places that nothing is rounded away: the longest exact expansion of a
binary64 number has 767 significant digits.

* **`exponentialNotation`** — a quotient with a given number of places and an exponent.
* **`readNotation`** — the digits and the exponent in such a text.
* **`Magnitude.expansion`** — the digits and the exponent of a magnitude. -/

namespace PocketCalc

-- Powers are those of the core library, also where another instance of `Pow` is known. For that, a
-- numeral in an exponent has its type written.
attribute [local instance (high)] instPowNat

/-! ## Writing -/

/-- A whole number with its sign, if it is negative. -/
def signedText (value : Int) : List Char :=
  if value < 0 then '-' :: digits value.natAbs else digits value.natAbs

/-- The digits of a significand with a point behind the first one, if there are more, and an
exponent. -/
def scientificText (significand : Nat) (exponent : Int) : List Char :=
  let mantissa := match digits significand with
    | first :: second :: rest => first :: '.' :: second :: rest
    | single => single
  mantissa ++ 'e' :: signedText exponent

/-- **A quotient with `places` digits behind the point and an exponent.** The digits are those of
the nearest such number, the one with an even last digit if two are equally near; where rounding
carries through nines to one digit more, the exponent grows. -/
def exponentialNotation (places numerator denominator : Nat) : List Char :=
  let exponent := decimalExponent numerator denominator
  let scale := (places : Int) - exponent
  let significand :=
    if 0 ≤ scale then nearestEven (numerator * 10 ^ scale.toNat) denominator
    else nearestEven numerator (denominator * 10 ^ (-scale).toNat)
  if significand = 10 ^ (places + 1) then scientificText (10 ^ places) (exponent + 1)
  else scientificText significand exponent

/-! ## Reading -/

/-- The parts of a text before and behind the first of a character, if there is one. -/
def splitOnce? (separator : Char) (text : List Char) : Option (List Char × List Char) :=
  match text.dropWhile (· != separator) with
  | [] => none
  | _ :: behind => some (text.takeWhile (· != separator), behind)

/-- Whether a text has a minus sign in front, and what stands behind its sign, if it has one. -/
def splitSign : List Char → Bool × List Char
  | '-' :: rest => (true, rest)
  | '+' :: rest => (false, rest)
  | text => (false, text)

/-- A whole number of 32 bits with a sign or none. -/
def int32? (text : List Char) : Option Int :=
  let (negative, shown) := splitSign text
  if shown.isEmpty || !shown.all Char.isDigit then none
  else
    let size := Nat.ofDigitChars 10 shown 0
    if negative then
      if size ≤ 2 ^ (31 : Nat) then some (-(size : Int)) else none
    else if size < 2 ^ (31 : Nat) then some size
    else none

/-- The values of the digits in a text; other characters are left out. -/
def digitValues (text : List Char) : List Nat :=
  (text.filter Char.isDigit).map fun c => c.toNat - '0'.toNat

/-- **The digits and the exponent of a number in exponential notation**; without an exponent, or if
it is none of 32 bits, it is zero. -/
def readNotation (text : List Char) : List Nat × Int :=
  let (mantissa, exponent) := (splitOnce? 'e' text).getD (text, ['0'])
  (digitValues mantissa, (int32? exponent).getD 0)

/-! ## Magnitudes -/

/-- As many places as any binary64 number needs. -/
def exactPlaces : Nat := 800

/-- **The digits of a magnitude** and the exponent of the first, as they are written and read. -/
def Magnitude.expansion (magnitude : Magnitude) : List Nat × Int :=
  readNotation (exponentialNotation exactPlaces magnitude.units unitsPerOne)

end PocketCalc
