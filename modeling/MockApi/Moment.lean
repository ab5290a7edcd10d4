/-
A moment in universal time, to the second, as the timestamps of made-up
bodies need it. The calendar ends with the year 9999, so an hour's delay can
fail.
-/
import MockApi.Decimal.Integer

namespace MockApi

/-- A moment in universal time. -/
structure Moment where
  year : Nat
  month : Nat
  day : Nat
  hour : Nat
  minute : Nat
  second : Nat
deriving DecidableEq, Repr

namespace Moment

/-- The last year of the calendar. -/
def lastYear : Nat := 9999

def isLeapYear (year : Nat) : Bool :=
  year % 4 == 0 && (year % 100 != 0 || year % 400 == 0)

def daysInMonth (year month : Nat) : Nat :=
  if month = 2 then if isLeapYear year then 29 else 28
  else if month = 4 ∨ month = 6 ∨ month = 9 ∨ month = 11 then 30
  else 31

/-- The start of the next day with the same time, if the calendar has it. -/
def nextDay? (m : Moment) : Option Moment :=
  if m.day < daysInMonth m.year m.month then some { m with day := m.day + 1 }
  else if m.month < 12 then some { m with day := 1, month := m.month + 1 }
  else if m.year < lastYear then some { m with day := 1, month := 1, year := m.year + 1 }
  else none

/-- An hour later, if the calendar has it. -/
def hourLater? (m : Moment) : Option Moment :=
  if m.hour < 23 then some { m with hour := m.hour + 1 }
  else nextDay? { m with hour := 0 }

/-- The years, months and days from the first of March in year 0 on, when so
many days have passed: the leap day comes last in such a year. -/
def ofDaysFromMarch (days : Nat) : Nat × Nat × Nat :=
  let era := days / 146097
  let inEra := days % 146097
  let year := (inEra - inEra / 1460 + inEra / 36524 - inEra / 146096) / 365
  let inYear := inEra - (365 * year + year / 4 - year / 100)
  let month := (5 * inYear + 2) / 153
  (400 * era + year, month, inYear - (153 * month + 2) / 5 + 1)

/-- The days from the first of March in year 0 to the first of January 1970. -/
def daysBeforeEpoch : Nat := 719468

/-- The moment so many seconds after the start of 1970. -/
def ofEpoch (seconds : Nat) : Moment :=
  let (year, month, day) := ofDaysFromMarch (seconds / 86400 + daysBeforeEpoch)
  let rest := seconds % 86400
  { year := if month < 10 then year else year + 1
    month := if month < 10 then month + 3 else month - 9
    day, hour := rest / 3600, minute := rest / 60 % 60, second := rest % 60 }

/-- A number with at least so many digits. -/
def padded (width n : Nat) : Text := Text.padLeft '0' width (decimalOfNat n)

/-- The timestamp of a moment. -/
def timestamp (m : Moment) : Text :=
  padded 4 m.year ++ "-" ++ padded 2 m.month ++ "-" ++ padded 2 m.day
    ++ "T" ++ padded 2 m.hour ++ ":" ++ padded 2 m.minute ++ ":" ++ padded 2 m.second ++ "Z"

end Moment

end MockApi
