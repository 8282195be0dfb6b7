import AccountInput.Number.Decimal

namespace AccountInput

/-- A date. -/
structure Date where
  year : Nat
  month : Nat
  day : Nat
deriving DecidableEq

namespace Date

def text (d : Date) : String :=
  Decimal.zeroed 4 d.year ++ "-" ++ Decimal.zeroed 2 d.month ++ "-" ++ Decimal.zeroed 2 d.day

def secondsOfDay : Nat := 86400

/-- A number of seconds of a day, as a clock shows it. -/
def clockText (seconds : Nat) : String :=
  Decimal.zeroed 2 (seconds / 3600) ++ ":" ++ Decimal.zeroed 2 (seconds / 60 % 60) ++ ":" ++
    Decimal.zeroed 2 (seconds % 60)

/-- The number of the first of January 1970. -/
def epochDay : Nat := 719468

/-- The numbers of the first day of the year 1 and of the last day of the year 9999. -/
def firstDay : Nat := 306
def lastDay : Nat := 3652364

def ofDay (z : Nat) : Date :=
  let era := z / 146097
  let dayOfEra := z % 146097
  let yearOfEra :=
    (dayOfEra - dayOfEra / 1460 + dayOfEra / 36524 - dayOfEra / 146096) / 365
  let dayOfYear := dayOfEra - (365 * yearOfEra + yearOfEra / 4 - yearOfEra / 100)
  let fromMarch := (5 * dayOfYear + 2) / 153
  { year := era * 400 + yearOfEra + (if fromMarch < 10 then 0 else 1)
    month := if fromMarch < 10 then fromMarch + 3 else fromMarch - 9
    day := dayOfYear - (153 * fromMarch + 2) / 5 + 1 }

def isLeap (year : Nat) : Bool := year % 4 = 0 && (year % 100 ≠ 0 || year % 400 = 0)

def daysOfMonth (year month : Nat) : Nat :=
  if month = 2 then (if isLeap year then 29 else 28)
  else if month = 4 ∨ month = 6 ∨ month = 9 ∨ month = 11 then 30
  else 31

/-- Whether a date stands in the calendar of the years 1 to 9999. -/
def isReal (d : Date) : Bool :=
  1 ≤ d.year && d.year ≤ 9999 && 1 ≤ d.month && d.month ≤ 12 && 1 ≤ d.day &&
    d.day ≤ daysOfMonth d.year d.month

def toDay (d : Date) : Nat :=
  let year := if d.month ≤ 2 then d.year - 1 else d.year
  let fromMarch := if d.month ≤ 2 then d.month + 9 else d.month - 3
  let yearOfEra := year % 400
  year / 400 * 146097 + (yearOfEra * 365 + yearOfEra / 4 - yearOfEra / 100) +
    (153 * fromMarch + 2) / 5 + d.day - 1

/-- The place of a day in its week, which begins with Monday. -/
def weekday (z : Nat) : Nat := (z + 2) % 7

/-- The Monday of the first week of a year: that of the fourth of January. -/
def firstMonday (year : Nat) : Nat :=
  let z := toDay ⟨year, 1, 4⟩
  z - weekday z

/-- The day of a year, a week of it and a place in the week, both counted from one. -/
def dayOfWeek? (year week place : Nat) : Option Nat :=
  let monday := firstMonday year + 7 * (week - 1)
  let z := monday + (place - 1)
  let isPlace := 1 ≤ week ∧ monday < firstMonday (year + 1) ∧ 1 ≤ place ∧ place ≤ 7
  if 1 ≤ year ∧ isPlace ∧ z ≤ lastDay then some z else none

end Date
end AccountInput
