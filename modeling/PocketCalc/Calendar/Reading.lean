import PocketCalc.Calendar.Timestamp
import PocketCalc.Text.Blank

/-! # Reading timestamps

Timestamps are read leniently: blanks between the parts and around them, short numbers, a sign
before the year, any number of places behind the second's point, and any offset to UTC, which is
taken off.

* **`Timestamp.readDate`**, **`Timestamp.readOffset`** — the parts of a timestamp.
* **`Timestamp.fromLocal?`** — the moment in UTC of a local time with its offset.
* **`Timestamp.ofText?`** — the moment that a text names. -/

namespace PocketCalc.Timestamp

-- Powers are those of the core library, also where another instance of `Pow` is known. For that, a
-- numeral in an exponent has its type written.
attribute [local instance (high)] instPowNat

/-- The text behind leading blanks. -/
def skipBlanks (text : List Char) : List Char := text.dropWhile isBlank

/-- The greatest number that digits may spell. -/
def numberMax : Nat := 2 ^ (63 : Nat) - 1

/-- Read at least one digit and, with a width, at most so many. -/
def readDigits (width : Option Nat) (text : List Char) : Option (Nat × List Char) :=
  let run := text.takeWhile Char.isDigit
  let shown := match width with
    | some most => run.take most
    | none => run
  let value := Nat.ofDigitChars 10 shown 0
  if shown.isEmpty || numberMax < value then none
  else some (value, text.drop shown.length)

/-- Read a character that must stand behind blanks. -/
def readMark (mark : Char) (text : List Char) : Option (List Char) :=
  match skipBlanks text with
  | c :: rest => if c = mark then some rest else none
  | [] => none

/-- Read a number of one or two digits behind blanks. -/
def readTwo (text : List Char) : Option (Nat × List Char) := readDigits (some 2) (skipBlanks text)

/-- Read a year behind blanks: up to four digits, or a sign and any number of them. -/
def readYear (text : List Char) : Option (Int × List Char) :=
  match skipBlanks text with
  | '-' :: rest => (readDigits none rest).map fun (value, behind) => (-(value : Int), behind)
  | '+' :: rest => (readDigits none rest).map fun (value, behind) => ((value : Int), behind)
  | rest => (readDigits (some 4) rest).map fun (value, behind) => ((value : Int), behind)

/-- Read a date. -/
def readDate (text : List Char) : Option (Date × List Char) := do
  let (year, behindYear) ← readYear text
  let (month, behindMonth) ← readTwo (← readMark '-' behindYear)
  let (day, rest) ← readTwo (← readMark '-' behindMonth)
  let date ← Date.of? year month day
  return (date, rest)

/-- Read the mark between date and time: a letter or a blank. -/
def readSeparator : List Char → Option (List Char)
  | 't' :: rest => some rest
  | 'T' :: rest => some rest
  | ' ' :: rest => some rest
  | _ => none

/-- Read the places behind a second, if there is a point: nine of them count. -/
def readFraction : List Char → Option (Nat × List Char)
  | '.' :: text =>
    let shown := (text.takeWhile Char.isDigit).take 9
    if shown.isEmpty then none
    else some (Nat.ofDigitChars 10 shown 0 * 10 ^ (9 - shown.length), text.dropWhile Char.isDigit)
  | text => some (0, text)

/-- The value of a digit. -/
def digit? (c : Char) : Option Nat := if c.isDigit then some (c.toNat - '0'.toNat) else none

/-- Read exactly two digits. -/
def readPair : List Char → Option (Nat × List Char)
  | first :: second :: rest => do
    let tens ← digit? first
    let ones ← digit? second
    return (tens * 10 + ones, rest)
  | _ => none

/-- Read hours and minutes of an offset behind its sign, in minutes. Colons and blanks between them
are passed over. -/
def readOffsetMinutes (text : List Char) : Option (Nat × List Char) := do
  let (hours, behindHours) ← readPair text
  let (minutes, rest) ← readPair (behindHours.dropWhile fun c => c == ':' || isBlank c)
  if minutes < 60 then return (hours * 60 + minutes, rest) else none

/-- Read an offset behind its sign: ahead of UTC or behind it. -/
def readOffsetBehind (sign : Int) (text : List Char) : Option (Int × List Char) :=
  (readOffsetMinutes text).map fun (minutes, rest) => (sign * minutes, rest)

/-- Read the three letters of UTC, in either case. -/
def readUtc : List Char → Option (List Char)
  | u :: t :: c :: rest =>
    if (u = 'U' || u = 'u') && (t = 'T' || t = 't') && (c = 'C' || c = 'c') then some rest else none
  | _ => none

/-- **Read an offset to UTC**, in minutes: the letter Z, the letters UTC, or a sign, hours and
minutes. -/
def readOffset (text : List Char) : Option (Int × List Char) :=
  match readUtc text with
  | some rest => some (0, rest)
  | none =>
    match text with
    | 'Z' :: rest => some (0, rest)
    | 'z' :: rest => some (0, rest)
    | '+' :: rest => readOffsetBehind 1 rest
    | '-' :: rest => readOffsetBehind (-1) rest
    | '−' :: rest => readOffsetBehind (-1) rest
    | _ => none

/-- The minutes of a day. -/
def minutesPerDay : Int := 1440

/-- **The moment in UTC** of a local time with an offset of less than a day: the minutes beyond
midnight move the date. -/
def fromLocal? (date : Date) (hour minute second nanosecond : Nat) (offset : Int) :
    Option Timestamp :=
  if -minutesPerDay < offset && offset < minutesPerDay && hour < 24 && minute < 60 then do
    let total := (hour * 60 + minute : Nat) - offset
    let day ←
      if total < 0 then date.previous?
      else if minutesPerDay ≤ total then date.next?
      else some date
    let rest := (total % minutesPerDay).toNat
    of? day (rest / 60) (rest % 60) second nanosecond
  else none

/-- **The moment that a text names.** Blanks may stand behind it, and nothing else. -/
def ofText? (text : List Char) : Option Timestamp := do
  let (date, behindDate) ← readDate text
  let (hour, behindHour) ← readTwo (← readSeparator behindDate)
  let (minute, behindMinute) ← readTwo (← readMark ':' behindHour)
  let (second, behindSecond) ← readTwo (← readMark ':' behindMinute)
  let (nanosecond, behindFraction) ← readFraction behindSecond
  let (offset, rest) ← readOffset (skipBlanks behindFraction)
  if (skipBlanks rest).isEmpty then fromLocal? date hour minute second nanosecond offset else none

end PocketCalc.Timestamp
