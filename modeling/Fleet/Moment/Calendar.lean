/-! Days of the Gregorian calendar, counted from the first day of the year 1. -/

namespace Fleet.Calendar

/-- Every fourth year has a leap day, except the centuries that 400 does not divide. -/
def isLeapYear (year : Nat) : Bool :=
  year % 4 == 0 && (year % 100 != 0 || year % 400 == 0)

/-- The lengths of the twelve months. -/
def monthLengths (year : Nat) : List Nat :=
  [31, if isLeapYear year then 29 else 28, 31, 30, 31, 30, 31, 31, 30, 31, 30, 31]

/-- The length of a month, counted from 1. There are no days in other months. -/
def monthLength (year month : Nat) : Nat :=
  if month == 0 then 0 else (monthLengths year).getD (month - 1) 0

/-- A day of the calendar. -/
structure Date where
  year : Nat
  month : Nat
  day : Nat
deriving DecidableEq

/-- A day exists when its month and its place in the month do. -/
def Date.exists (date : Date) : Bool :=
  1 ≤ date.day && date.day ≤ monthLength date.year date.month

/-- Days before a year that is counted from 1. -/
def daysBeforeYear (year : Nat) : Nat :=
  let past := year - 1
  365 * past + past / 4 - past / 100 + past / 400

/-- Days of a year before a month. -/
def daysBeforeMonth (year month : Nat) : Nat :=
  ((monthLengths year).take (month - 1)).foldr (· + ·) 0

/-- Days from the first day of the year 1. -/
def Date.dayNumber (date : Date) : Nat :=
  daysBeforeYear date.year + daysBeforeMonth date.year date.month + (date.day - 1)

/-- Days of the years 1 to 9999. -/
def dayCount : Nat := daysBeforeYear 10000

/-- The year of a day, and its place in the year, both from the longest cycle down. A cycle's
extra day at its end belongs to its last year. -/
def yearAndDay (number : Nat) : Nat × Nat :=
  let cycles := number / 146097
  let inCycle := number % 146097
  let centuries := min 3 (inCycle / 36524)
  let inCentury := inCycle - 36524 * centuries
  let fours := inCentury / 1461
  let inFour := inCentury % 1461
  let years := min 3 (inFour / 365)
  (400 * cycles + 100 * centuries + 4 * fours + years + 1, inFour - 365 * years)

/-- The month and day at a place in months of the given lengths, counted from a first month. -/
def monthAndDay (month : Nat) : List Nat → Nat → Nat × Nat
  | [], place => (month, place + 1)
  | length :: rest, place =>
    if place < length then (month, place + 1) else monthAndDay (month + 1) rest (place - length)

/-- The day with a number. -/
def Date.ofDayNumber (number : Nat) : Date :=
  let (year, place) := yearAndDay number
  let (month, day) := monthAndDay 1 (monthLengths year) place
  ⟨year, month, day⟩

end Fleet.Calendar
