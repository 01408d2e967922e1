import PocketCalc.Decimal.Expansion

/-! # Twelve significant digits

The text of a result is canonical: twelve significant digits, an exact half rounding away from
zero, trailing zeros dropped. The twelve digits are the first of the exact expansion, and the
thirteenth says whether the last of them is raised. Where the first digit stands at `10 ^ -7` or
below, or at `10 ^ 12` or above, the text has an exponent and keeps all twelve digits. The choice is
made after rounding, so `999999999999.5` is written `1.00000000000e+12`.

* **`raiseLast`** — the loop that carries through nines.
* **`firstDigits`** — the digits and the exponent that rounding leaves.
* **`Rounded.text`** — the two layouts of rounded digits.
* **`resultText`** — the text of a finite number. -/

namespace PocketCalc

/-- How many significant digits a result shows. -/
def resultDigits : Nat := 12

/-! ## Rounding -/

/-- **Raise the last of some digits**, which are given from the last to the first. A nine becomes
zero, and the digit before it is raised. The answer says whether all were nines. -/
def raiseLast : List Nat → Bool × List Nat
  | [] => (true, [])
  | digit :: before =>
    if digit = 9 then
      let (carries, raised) := raiseLast before
      (carries, 0 :: raised)
    else (false, (digit + 1) :: before)

/-- **The first `count` digits, rounded by the digit behind them.** Where a carry runs through all
of them, a one is put in front, the last digit is cut off, and the exponent grows. -/
def firstDigits (count : Nat) (all : List Nat) (exponent : Int) : List Nat × Int :=
  let kept := all.take count
  if (all[count]?).any (5 ≤ ·) then
    let (carries, raised) := raiseLast kept.reverse
    if carries then ((1 :: raised.reverse).take count, exponent + 1)
    else (raised.reverse, exponent)
  else (kept, exponent)

/-! ## Layout -/

/-- **Rounded digits** as characters, read with a point behind the first one, and an exponent. -/
structure Rounded where
  /-- The digits, first to last. -/
  digits : List Char
  /-- The power of ten of the first digit. -/
  exponent : Int
  deriving DecidableEq, Repr

/-- A magnitude rounded to `count` significant digits. -/
def Magnitude.roundedTo (magnitude : Magnitude) (count : Nat) : Rounded :=
  let (all, exponent) := magnitude.expansion
  let (kept, exponent) := firstDigits count all exponent
  ⟨kept.map Nat.digitChar, exponent⟩

/-- Drop the zeros after the last other digit of a fraction, and the point if nothing follows it. A
text without a point stays as it is. -/
def dropTrailingZeros (text : List Char) : List Char :=
  if text.contains '.' then
    match text.reverse.dropWhile (· == '0') with
    | '.' :: whole => whole.reverse
    | kept => kept.reverse
  else text

namespace Rounded

/-- The text with an exponent: one digit, a point, the other digits, `e`, sign and exponent. -/
def exponential (number : Rounded) : List Char :=
  let sign := if number.exponent < 0 then '-' else '+'
  number.digits.take 1 ++ '.' :: number.digits.drop 1 ++
    'e' :: sign :: PocketCalc.digits number.exponent.natAbs

/-- The text without an exponent, trailing zeros dropped. -/
def fixed (number : Rounded) : List Char :=
  dropTrailingZeros <|
    if number.exponent < 0 then
      '0' :: '.' :: (List.replicate (-number.exponent - 1).toNat '0' ++ number.digits)
    else
      number.digits.take (number.exponent.toNat + 1) ++
        '.' :: number.digits.drop (number.exponent.toNat + 1)

/-- Whether the first digit stands too far from the point for a text without exponent. -/
def isExponential (number : Rounded) : Bool :=
  number.exponent < -6 || (resultDigits : Int) ≤ number.exponent

/-- The text of a number of `resultDigits` significant digits. -/
def text (number : Rounded) : List Char :=
  if number.isExponential then number.exponential else number.fixed

end Rounded

/-- **The text of a finite result.** Both zeros are written `0`. -/
def resultText (negative : Bool) (magnitude : Magnitude) : List Char :=
  if magnitude.units = 0 then ['0']
  else if negative then '-' :: (magnitude.roundedTo resultDigits).text
  else (magnitude.roundedTo resultDigits).text

end PocketCalc
