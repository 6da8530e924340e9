/-!
# The calendar

Days are counted from 1970-01-01 in the Gregorian calendar, extended to all years in both
directions. `dayNumber` and `civil` convert between a date and its day count. Both work in years
that begin in March, so that the leap day is the last of its year, and in eras of 400 years, which
all have 146097 days.
-/

namespace PagedSparql

/-- A date of the calendar. -/
structure Civil where
  /-- The year; year 0 precedes year 1. -/
  year : Int
  /-- The month, from 1. -/
  month : Nat
  /-- The day of the month, from 1. -/
  day : Nat
  deriving DecidableEq

/-- The year has a leap day. -/
def isLeapYear (year : Int) : Bool := year % 4 == 0 && (year % 100 != 0 || year % 400 == 0)

/-- The number of days of a month. -/
def daysInMonth (year : Int) (month : Nat) : Nat :=
  if month = 2 then (if isLeapYear year then 29 else 28)
  else if month = 4 ∨ month = 6 ∨ month = 9 ∨ month = 11 then 30
  else 31

namespace Civil

/-- The date exists, and its year is one that dates may have. -/
def isValid (c : Civil) : Bool :=
  decide (-262143 ≤ c.year ∧ c.year ≤ 262142 ∧ 1 ≤ c.month ∧ c.month ≤ 12 ∧ 1 ≤ c.day ∧
    c.day ≤ daysInMonth c.year c.month)

/-- The number of days from 1970-01-01 to the date. -/
def dayNumber (c : Civil) : Int :=
  let year := if c.month ≤ 2 then c.year - 1 else c.year
  let era := year / 400
  let yearOfEra := year - era * 400
  -- The year begins in March, so that the leap day is its last.
  let monthFromMarch : Int := if 2 < c.month then c.month - 3 else c.month + 9
  let dayOfYear := (153 * monthFromMarch + 2) / 5 + c.day - 1
  let dayOfEra := yearOfEra * 365 + yearOfEra / 4 - yearOfEra / 100 + dayOfYear
  era * 146097 + dayOfEra - 719468

/-- The date of a day number. -/
def ofDayNumber (day : Int) : Civil :=
  let shifted := day + 719468
  let era := shifted / 146097
  let dayOfEra := shifted - era * 146097
  -- Take the leap days out before dividing by the length of a common year.
  let yearOfEra := (dayOfEra - dayOfEra / 1460 + dayOfEra / 36524 - dayOfEra / 146096) / 365
  let dayOfYear := dayOfEra - (365 * yearOfEra + yearOfEra / 4 - yearOfEra / 100)
  let monthFromMarch := (5 * dayOfYear + 2) / 153
  let month := if monthFromMarch < 10 then monthFromMarch + 3 else monthFromMarch - 9
  let year := yearOfEra + era * 400 + if month ≤ 2 then 1 else 0
  ⟨year, month.toNat, (dayOfYear - (153 * monthFromMarch + 2) / 5 + 1).toNat⟩

end Civil

end PagedSparql
