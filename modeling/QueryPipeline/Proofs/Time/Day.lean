import QueryPipeline.Proofs.Time.Calendar
import QueryPipeline.Time.Iso

/-!
# Days of universal time

The bounds of a day tell the instants before it, on it and after it apart. Between the last
millisecond of a day and the first of the next no instant of whole milliseconds is left, so the days
told by the bounds are those of the calendar.
-/

namespace QueryPipeline.Time.Timestamp

/-- The date of a point in time on a calendar of universal time. -/
def date (t : Timestamp) : Date := Date.ofDayNumber (t.instant / dayLength).toNat

/-- A point in time as documents hold it: in whole milliseconds of the years 1 to 9999. -/
structure IsStorable (t : Timestamp) : Prop where
  /-- The instant is a whole number of milliseconds. -/
  whole : t.instant % 1000 = 0
  /-- The instant is not before the year 1. -/
  start : 0 ≤ t.instant
  /-- The instant is before the year 10000. -/
  inside : t.instant < calendarLength

/-- What a text denotes in universal time is the instant that it denotes, a text without a distance
denoting universal time, within the years 1 to 9999. -/
theorem readUtc_eq_ok {text : List Char} {day : Timestamp} (read : readUtc text = .ok day) :
    ∃ denoted, read? text = some denoted ∧ 0 ≤ denoted.instant ∧
      denoted.instant < calendarLength ∧ day = utc denoted.instant := by
  rw [readUtc] at read
  cases found : read? text with
  | none =>
    rw [found] at read
    cases read
  | some denoted =>
    rw [found] at read
    simp only [toUtc, toUtc?] at read
    by_cases inside : 0 ≤ denoted.instant ∧ denoted.instant < calendarLength
    · rw [if_pos inside] at read
      cases read
      exact ⟨denoted, rfl, inside.1, inside.2, rfl⟩
    · rw [if_neg inside] at read
      cases read

/-- Points in time have the same date where their instants are on the same day. -/
theorem date_eq_date_iff {first second : Timestamp} (start : 0 ≤ first.instant)
    (begin : 0 ≤ second.instant) :
    first.date = second.date ↔ first.instant / dayLength = second.instant / dayLength := by
  rw [date, date, ofDayNumber_inj, dayLength]
  omega

section

variable (day moment : Timestamp)

/-- An instant is before the start of a day where it is on an earlier day. -/
theorem lt_startOfDay_iff : moment.instant < day.startOfDay.instant ↔
    moment.instant / dayLength < day.clock / dayLength := by
  simp only [startOfDay, utc, instant, Option.getD_some, dayLength]
  omega

/-- An instant is after the end of a day where it is on a later day. -/
theorem endOfDay_lt_iff (whole : moment.instant % 1000 = 0) :
    day.endOfDay.instant < moment.instant ↔
      day.clock / dayLength < moment.instant / dayLength := by
  have last : day.endOfDay.instant = day.clock / dayLength * dayLength + dayLength - 1000 := by
    simp only [endOfDay, utc, instant, Option.getD_some, Int.sub_zero]
  rw [last, dayLength]
  omega

end

end QueryPipeline.Time.Timestamp
