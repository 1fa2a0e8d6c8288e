/-!
# The calendar of the years 1 to 9999

Days are numbered from 0 on the first of January of the year 1, a Monday. A date is a year, a month
and a day of the month in the Gregorian rule extended to all years.
-/

namespace QueryPipeline.Time

/-- A day by year, month and day of the month, all counted from one. -/
structure Date where
  /-- The year. -/
  year : Nat
  /-- The month, January being one. -/
  month : Nat
  /-- The day of the month. -/
  day : Nat
  deriving DecidableEq, Repr

/-- The number of days in the years 1 to 9999. -/
def calendarDays : Nat := 3652059

/-- Whether a year has a leap day. -/
def isLeap (year : Nat) : Bool := year % 4 == 0 && (year % 100 != 0 || year % 400 == 0)

/-- The lengths of the months of a year. -/
def monthLengths (leap : Bool) : List Nat :=
  [31, if leap then 29 else 28, 31, 30, 31, 30, 31, 31, 30, 31, 30, 31]

/-- The number of days before the first of January of a year. -/
def daysBeforeYear (year : Nat) : Nat :=
  let past := year - 1
  365 * past + past / 4 - past / 100 + past / 400

/-- Whether a date is a day of the years 1 to 9999. -/
def Date.isValid (date : Date) : Bool :=
  1 ≤ date.year && date.year ≤ 9999 && 1 ≤ date.month && 1 ≤ date.day &&
    match (monthLengths (isLeap date.year))[date.month - 1]? with
    | some length => date.day ≤ length
    | none => false

/-- The number of the day of a date. -/
def Date.dayNumber (date : Date) : Nat :=
  let months := (monthLengths (isLeap date.year)).take (date.month - 1)
  daysBeforeYear date.year + months.foldr (· + ·) 0 + (date.day - 1)

/-- The month, counted from the given one, and the day in it of the day with a number from zero. -/
def monthAndDay (month day : Nat) : List Nat → Nat × Nat
  | [] => (month, day + 1)
  | length :: lengths =>
    if day < length then (month, day + 1) else monthAndDay (month + 1) (day - length) lengths

/-- The date of a day, found through the cycles of 400, 100 and 4 years. -/
def Date.ofDayNumber (number : Nat) : Date :=
  let inCycle := number % 146097
  let centuries := min 3 (inCycle / 36524)
  let inCentury := inCycle - 36524 * centuries
  let inFour := inCentury % 1461
  let years := min 3 (inFour / 365)
  let year := 400 * (number / 146097) + 100 * centuries + 4 * (inCentury / 1461) + years + 1
  let (month, day) := monthAndDay 1 (inFour - 365 * years) (monthLengths (isLeap year))
  ⟨year, month, day⟩

/-- The Monday of the week that holds the first Thursday of a year. -/
def firstMonday (year : Nat) : Nat :=
  let newYear := daysBeforeYear year
  let weekday := newYear % 7
  if 3 < weekday then newYear + 7 - weekday else newYear - weekday

/-- Whether a year has 53 weeks: it starts on a Thursday, or on a Wednesday with a leap day. -/
def isLong (year : Nat) : Bool :=
  let weekday := daysBeforeYear year % 7
  weekday == 3 || (weekday == 2 && isLeap year)

/-- The number of the day with the given week and weekday, both counted from one. -/
def weekDay? (year week weekday : Nat) : Option Nat :=
  let number := firstMonday year + 7 * (week - 1) + (weekday - 1)
  if 1 ≤ year ∧ 1 ≤ week ∧ (week ≤ 52 ∨ (week = 53 ∧ isLong year)) ∧ 1 ≤ weekday ∧ weekday ≤ 7 ∧
      number < calendarDays then some number
  else none

/-- The days of the calendar are those before the year 10000. -/
theorem calendarDays_eq : calendarDays = daysBeforeYear 10000 := by decide

end QueryPipeline.Time
