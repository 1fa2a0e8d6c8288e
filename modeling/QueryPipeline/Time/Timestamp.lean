import QueryPipeline.Time.Calendar

/-!
# Points in time

A point in time is what a clock shows, in microseconds since the start of the year 1, with the
clock's distance from universal time if it is known. A clock without a distance is taken to show
universal time. Moving to universal time fails where it leaves the years 1 to 9999.
-/

namespace QueryPipeline.Time

/-- The microseconds of a day. -/
def dayLength : Int := 86400000000

/-- The microseconds of the years 1 to 9999. -/
def calendarLength : Int := calendarDays * dayLength

/-- A clock reading. -/
structure Timestamp where
  /-- What the clock shows, in microseconds since the start of the year 1. -/
  clock : Int
  /-- How many microseconds the clock is ahead of universal time, if that is known. -/
  offset : Option Int
  deriving DecidableEq, Repr

namespace Timestamp

/-- The reading of a clock that shows universal time. -/
def utc (clock : Int) : Timestamp := ⟨clock, some 0⟩

/-- The instant of a reading, in microseconds of universal time since the start of the year 1. -/
def instant (t : Timestamp) : Int := t.clock - t.offset.getD 0

/-- The same instant on a clock of universal time, within the years 1 to 9999. -/
def toUtc? (t : Timestamp) : Option Timestamp :=
  if 0 ≤ t.instant ∧ t.instant < calendarLength then some (utc t.instant) else none

/-- The first microsecond of the day of a reading, on a clock of universal time. -/
def startOfDay (t : Timestamp) : Timestamp := utc (t.clock / dayLength * dayLength)

/-- The last millisecond of the day of a reading, on a clock of universal time. -/
def endOfDay (t : Timestamp) : Timestamp :=
  utc (t.clock / dayLength * dayLength + dayLength - 1000)

end Timestamp

/-- The last `width` decimal digits of a number. -/
def digitsOfWidth : Nat → Nat → List Char
  | 0, _ => []
  | width + 1, n => digitsOfWidth width (n / 10) ++ [Nat.digitChar (n % 10)]

/-- Which fractions of a second are written. -/
inductive Fraction
  /-- Six digits always. -/
  | always
  /-- Six digits unless they are all zero. -/
  | ifNonzero
  deriving DecidableEq, Repr

/-- The text of a fraction of a second. -/
def fractionText (fraction : Fraction) (micros : Nat) : List Char :=
  if fraction = .ifNonzero ∧ micros = 0 then [] else '.' :: digitsOfWidth 6 micros

/-- The text of a number of microseconds as hours and minutes; seconds are written where they are
not zero. -/
def offsetText (offset : Int) : List Char :=
  let micros := offset.natAbs
  let seconds := micros / 1000000
  (if offset < 0 then '-' else '+') :: digitsOfWidth 2 (seconds / 3600) ++
    ':' :: digitsOfWidth 2 (seconds / 60 % 60) ++
    (if micros % 60000000 = 0 then []
      else ':' :: digitsOfWidth 2 (seconds % 60) ++ fractionText .ifNonzero (micros % 1000000))

/-- The text of a clock reading: date, `T`, time, and the distance from universal time. -/
def Timestamp.text (fraction : Fraction) (t : Timestamp) : List Char :=
  let date := Date.ofDayNumber (t.clock / dayLength).toNat
  let micros := (t.clock % dayLength).toNat
  let seconds := micros / 1000000
  digitsOfWidth 4 date.year ++ '-' :: digitsOfWidth 2 date.month ++
    '-' :: digitsOfWidth 2 date.day ++ 'T' :: digitsOfWidth 2 (seconds / 3600) ++
    ':' :: digitsOfWidth 2 (seconds / 60 % 60) ++ ':' :: digitsOfWidth 2 (seconds % 60) ++
    fractionText fraction (micros % 1000000) ++ (t.offset.map offsetText).getD []

end QueryPipeline.Time
