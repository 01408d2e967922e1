/-! # Dates

A date is a day of the Gregorian calendar, carried back to all years. It exists by construction: the
month has so many days, and the year is one of those that are supported.

* **`Date.of?`** — the date with given numbers, if there is one.
* **`Date.next?`**, **`Date.previous?`** — the neighbouring days. -/

namespace PocketCalc

/-- A year with a twenty-ninth of February. -/
def isLeapYear (year : Int) : Bool :=
  year % 4 == 0 && (year % 100 != 0 || year % 400 == 0)

/-- The number of days of a month; there are none beyond the twelve months. -/
def daysInMonth (year : Int) (month : Nat) : Nat :=
  if month = 2 then if isLeapYear year then 29 else 28
  else if month = 4 || month = 6 || month = 9 || month = 11 then 30
  else if 1 ≤ month && month ≤ 12 then 31
  else 0

/-- A month has at most thirty-one days. -/
theorem daysInMonth_le (year : Int) (month : Nat) : daysInMonth year month ≤ 31 := by
  unfold daysInMonth
  repeat' split
  all_goals omega

/-- The years in which dates are supported. -/
def isSupportedYear (year : Int) : Bool := -262143 ≤ year && year ≤ 262142

/-- **A day of the calendar.** -/
structure Date where
  /-- The year; the year before year one is zero. -/
  year : Int
  /-- The month, from one. -/
  month : Nat
  /-- The day of the month, from one. -/
  day : Nat
  /-- The day exists. -/
  exists_day : 1 ≤ day ∧ day ≤ daysInMonth year month
  /-- The year is supported. -/
  supported : isSupportedYear year = true
  deriving DecidableEq, Repr

namespace Date

/-- The date with these numbers, if there is one. -/
def of? (year : Int) (month day : Nat) : Option Date :=
  if exists_day : 1 ≤ day ∧ day ≤ daysInMonth year month then
    if supported : isSupportedYear year = true then some ⟨year, month, day, exists_day, supported⟩
    else none
  else none

/-- A date is found from its own numbers. -/
@[simp] theorem of?_self (date : Date) : of? date.year date.month date.day = some date := by
  simp [of?, date.exists_day, date.supported]

/-- The day after. -/
def next? (date : Date) : Option Date :=
  if date.day < daysInMonth date.year date.month then of? date.year date.month (date.day + 1)
  else if date.month < 12 then of? date.year (date.month + 1) 1
  else of? (date.year + 1) 1 1

/-- The day before. -/
def previous? (date : Date) : Option Date :=
  if 1 < date.day then of? date.year date.month (date.day - 1)
  else if 1 < date.month then
    of? date.year (date.month - 1) (daysInMonth date.year (date.month - 1))
  else of? (date.year - 1) 12 31

end Date

end PocketCalc
