import PocketCalc.Json.Text
import PocketCalc.Binary64.Basic

/-! # JSON numbers

Only natural numbers below `2 ^ 64` have a meaning in this library. Every other number must still be
read to its end, because a number that is no JSON, or too large for a binary64 number, is a
different fault than a number of the wrong kind.

* **`Json.readNatural`** — a natural number; another sound number is mistyped.
* **`Json.skipNumber`** — the text behind a number that is thrown away. -/

namespace PocketCalc.Json

-- Powers are those of the core library, also where another instance of `Pow` is known. For that, a
-- numeral in an exponent has its type written.
attribute [local instance (high)] instPowNat

/-- The greatest natural number that is read exactly. -/
def naturalMax : Nat := 2 ^ (64 : Nat) - 1

/-- The value of a decimal digit. -/
def digitValue (c : Char) : Nat := c.toNat - '0'.toNat

/-- **The digits of a number as far as they are kept**: the value of those that fit, and the power
of ten for the others and for the places behind the point. -/
structure KeptDigits where
  /-- The value of the digits kept. -/
  significand : Nat
  /-- The power of ten that the last of them stands for. -/
  exponent : Int
  deriving DecidableEq, Repr

/-- Keep the digits of a whole part: from the first one that does not fit on, only count. -/
def keepWhole (kept : KeptDigits) (full : Bool) : List Char → KeptDigits
  | [] => kept
  | c :: rest =>
    let next := kept.significand * 10 + digitValue c
    if full || naturalMax < next then
      keepWhole { kept with exponent := kept.exponent + 1 } true rest
    else keepWhole { kept with significand := next } false rest

/-- Keep the digits of a fraction: from the first one that does not fit on, forget them. -/
def keepFraction (kept : KeptDigits) : List Char → KeptDigits
  | [] => kept
  | c :: rest =>
    let next := kept.significand * 10 + digitValue c
    if naturalMax < next then kept else keepFraction ⟨next, kept.exponent - 1⟩ rest

/-- Whether a number is too large for binary64: its digits, scaled by a power of ten that is itself
a binary64 number, give an infinity. -/
def isTooLarge (kept : KeptDigits) : Bool :=
  kept.significand != 0 && (308 < kept.exponent ||
    (0 ≤ kept.exponent &&
      !(Binary64.ofNat kept.significand * Binary64.ofNat (10 ^ kept.exponent.toNat)).isFinite))

/-- The largest exponent that is read exactly; a larger one makes a number zero or too large. -/
def exponentMax : Nat := 2 ^ (31 : Nat) - 1

/-- Read the exponent of a number behind its letter. -/
def readExponent (kept : KeptDigits) (text : List Char) : Except Fault (List Char) :=
  let (negative, unsigned) :=
    match text with
    | '+' :: rest => (false, rest)
    | '-' :: rest => (true, rest)
    | _ => (false, text)
  let shown := unsigned.takeWhile Char.isDigit
  let rest := unsigned.dropWhile Char.isDigit
  if shown.isEmpty then .error (if unsigned.isEmpty then .truncated else .malformed)
  else
    let exponent := Nat.ofDigitChars 10 shown 0
    if exponentMax < exponent then
      if kept.significand != 0 && !negative then .error .malformed else .ok rest
    else
      let scaled := if negative then kept.exponent - exponent else kept.exponent + exponent
      if isTooLarge { kept with exponent := scaled } then .error .malformed else .ok rest

/-- Read on behind the digits of a number: an exponent, or the end. -/
def readScale (kept : KeptDigits) : List Char → Except Fault (List Char)
  | 'e' :: rest => readExponent kept rest
  | 'E' :: rest => readExponent kept rest
  | rest => if isTooLarge kept then .error .malformed else .ok rest

/-- **Read an unsigned number**: its value if it has neither point nor exponent and fits, and the
text behind it. -/
def readUnsigned (text : List Char) : Except Fault (Option Nat × List Char) :=
  let shown := text.takeWhile Char.isDigit
  let rest := text.dropWhile Char.isDigit
  match shown with
  | [] => .error (if text.isEmpty then .truncated else .malformed)
  | first :: others =>
    if first = '0' && !others.isEmpty then .error .malformed
    else
      let kept := keepWhole ⟨0, 0⟩ false shown
      match rest with
      | '.' :: afterPoint =>
        let fraction := afterPoint.takeWhile Char.isDigit
        let behind := afterPoint.dropWhile Char.isDigit
        if fraction.isEmpty then .error (if behind.isEmpty then .truncated else .malformed)
        else (readScale (keepFraction kept fraction) behind).map (none, ·)
      | 'e' :: _ => (readScale kept rest).map (none, ·)
      | 'E' :: _ => (readScale kept rest).map (none, ·)
      | _ =>
        if kept.exponent = 0 then .ok (some kept.significand, rest)
        else (readScale kept rest).map (none, ·)

/-- Read a number that is not expected here: it is mistyped unless it is no number. -/
def mistypedNumber (text : List Char) : Fault :=
  let unsigned := match text with
    | '-' :: rest => rest
    | _ => text
  match readUnsigned unsigned with
  | .error fault => fault
  | .ok _ => .mistyped

/-- Skip the exponent of a number that is thrown away. -/
def skipExponent (text : List Char) : Except Fault (List Char) :=
  let unsigned := match text with
    | '+' :: rest => rest
    | '-' :: rest => rest
    | _ => text
  match unsigned with
  | c :: rest => if c.isDigit then .ok (rest.dropWhile Char.isDigit) else .error .malformed
  | [] => .error .malformed

/-- Skip what follows the digits of a number that is thrown away. -/
def skipScale : List Char → Except Fault (List Char)
  | 'e' :: rest => skipExponent rest
  | 'E' :: rest => skipExponent rest
  | rest => .ok rest

/-- **The text behind a number that is thrown away**, its sign already read. A number that ends too
early counts as malformed here. -/
def skipNumber (text : List Char) : Except Fault (List Char) :=
  let shown := text.takeWhile Char.isDigit
  let rest := text.dropWhile Char.isDigit
  match shown with
  | [] => .error .malformed
  | first :: others =>
    if first = '0' && !others.isEmpty then .error .malformed
    else match rest with
      | '.' :: afterPoint =>
        if (afterPoint.takeWhile Char.isDigit).isEmpty then .error .malformed
        else skipScale (afterPoint.dropWhile Char.isDigit)
      | _ => skipScale rest

end PocketCalc.Json
