import PocketCalc.Calendar.Date

/-! # Timestamps

A timestamp is a moment in UTC, to the nanosecond; a second may be a leap second, the sixtieth. It
is written in one form, with as few places behind the second as are exact, in threes.

* **`Timestamp.of?`** — the moment with given numbers, if there is one.
* **`Timestamp.text`** — the written form. -/

namespace PocketCalc

/-- **A moment in UTC.** -/
structure Timestamp where
  /-- The day. -/
  date : Date
  /-- The hour. -/
  hour : Nat
  /-- The minute. -/
  minute : Nat
  /-- The second; a leap second is the sixtieth. -/
  second : Nat
  /-- The nanosecond. -/
  nanosecond : Nat
  /-- The time of day exists. -/
  exists_time : hour < 24 ∧ minute < 60 ∧ second ≤ 60 ∧ nanosecond < 1000000000
  deriving DecidableEq, Repr

namespace Timestamp

/-- The moment with these numbers, if there is one. -/
def of? (date : Date) (hour minute second nanosecond : Nat) : Option Timestamp :=
  if exists_time : hour < 24 ∧ minute < 60 ∧ second ≤ 60 ∧ nanosecond < 1000000000 then
    some ⟨date, hour, minute, second, nanosecond, exists_time⟩
  else none

/-! ## Writing -/

/-- A number with leading zeros up to a width. -/
def padded (width value : Nat) : List Char :=
  let shown := Nat.toDigits 10 value
  List.replicate (width - shown.length) '0' ++ shown

/-- A year: four digits, and outside those years a sign and at least four digits. -/
def yearText (year : Int) : List Char :=
  if 0 ≤ year && year ≤ 9999 then padded 4 year.natAbs
  else (if year < 0 then '-' else '+') :: padded 4 year.natAbs

/-- The places behind the second: none, three, six or nine, as few as are exact. -/
def fractionText (nanosecond : Nat) : List Char :=
  if nanosecond = 0 then []
  else if nanosecond % 1000000 = 0 then '.' :: padded 3 (nanosecond / 1000000)
  else if nanosecond % 1000 = 0 then '.' :: padded 6 (nanosecond / 1000)
  else '.' :: padded 9 nanosecond

/-- **The written form of a moment.** -/
def text (moment : Timestamp) : List Char :=
  yearText moment.date.year ++ '-' :: padded 2 moment.date.month ++ '-' :: padded 2 moment.date.day
    ++ 'T' :: padded 2 moment.hour ++ ':' :: padded 2 moment.minute ++ ':' :: padded 2 moment.second
    ++ fractionText moment.nanosecond ++ ['Z']

end Timestamp

end PocketCalc
