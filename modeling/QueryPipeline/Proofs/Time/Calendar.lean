import QueryPipeline.Time.Calendar

/-!
# Days and their dates

A day is numbered by its date again: the cycles of 400, 100 and 4 years through which the date of a
day is found leave a day within a year, and the months of the year leave a day within a month. So
days with the same date are the same.
-/

namespace QueryPipeline.Time

/-- The days of the first months among some. -/
def daysOfMonths (lengths : List Nat) : Nat := lengths.foldr (· + ·) 0

/-- A day within some months is found in one of them, behind the months before it. -/
theorem monthAndDay_eq {day : Nat} {lengths : List Nat} (inside : day < daysOfMonths lengths)
    (month : Nat) :
    ∃ earlier, (monthAndDay month day lengths).1 = month + earlier ∧
      1 ≤ (monthAndDay month day lengths).2 ∧
      daysOfMonths (lengths.take earlier) + ((monthAndDay month day lengths).2 - 1) = day := by
  induction lengths generalizing day month with
  | nil => exact absurd inside (Nat.not_lt_zero day)
  | cons length lengths ih =>
    rw [monthAndDay]
    split
    · exact ⟨0, rfl, Nat.succ_pos day, by simp [daysOfMonths]⟩
    · next later =>
      have total : daysOfMonths (length :: lengths) = length + daysOfMonths lengths := rfl
      obtain ⟨earlier, found, positive, same⟩ :=
        ih (by omega : day - length < daysOfMonths lengths) (month + 1)
      have passed : daysOfMonths ((length :: lengths).take (earlier + 1)) =
          length + daysOfMonths (lengths.take earlier) := rfl
      exact ⟨earlier + 1, by omega, positive, by omega⟩

/-- The months of a year have its days. -/
theorem daysOfMonths_monthLengths (leap : Bool) :
    daysOfMonths (monthLengths leap) = if leap then 366 else 365 := by
  cases leap <;> rfl

/-- A date has the number of its day within the year behind the days before the year. -/
theorem dayNumber_eq (date : Date) :
    date.dayNumber = daysBeforeYear date.year +
      daysOfMonths ((monthLengths (isLeap date.year)).take (date.month - 1)) + (date.day - 1) :=
  rfl

section

variable (cycles : Nat) {centuries fours years : Nat} (century : centuries ≤ 3) (four : fours ≤ 24)
  (year : years ≤ 3)

include century four year

/-- The days before a year in the cycles that the year is made of. -/
theorem daysBeforeYear_cycles :
    daysBeforeYear (400 * cycles + 100 * centuries + 4 * fours + years + 1) =
      146097 * cycles + 36524 * centuries + 1461 * fours + 365 * years := by
  rw [daysBeforeYear]
  omega

/-- A year has a leap day if it is the fourth of its four, but the last of a century only if it is
the last of a cycle. -/
theorem isLeap_cycles :
    isLeap (400 * cycles + 100 * centuries + 4 * fours + years + 1) = true ↔
      years = 3 ∧ (fours ≠ 24 ∨ centuries = 3) := by
  simp only [isLeap, Bool.and_eq_true, Bool.or_eq_true, beq_iff_eq, bne_iff_ne, Ne]
  omega

end

/-- Days are cut into four parts of one length, the last of which may have a day more. -/
theorem exists_quarter {days length : Nat} (positive : 0 < length) (most : days ≤ 4 * length) :
    ∃ part day, min 3 (days / length) = part ∧ days - length * part = day ∧ part ≤ 3 ∧
      days = length * part + day ∧ (day < length ∨ day = length ∧ part = 3) := by
  have bounds := Nat.div_add_mod days length
  have short := Nat.mod_lt days positive
  obtain within | beyond := Nat.lt_or_ge (days / length) 4
  · rw [Nat.min_eq_right (by omega : days / length ≤ 3)]
    exact ⟨_, _, rfl, rfl, by omega, by omega, .inl (by omega)⟩
  · have whole : 4 * length ≤ days := by
      have four := Nat.mul_le_mul_left length beyond
      omega
    rw [Nat.min_eq_left (by omega : 3 ≤ days / length)]
    exact ⟨_, _, rfl, rfl, Nat.le_refl 3, by omega, .inr ⟨by omega, rfl⟩⟩

/-- The number of a day is that of its date. -/
theorem dayNumber_ofDayNumber (number : Nat) : (Date.ofDayNumber number).dayNumber = number := by
  -- The cycles that the date is found through, and the days that each of them leaves.
  have whole := Nat.div_add_mod number 146097
  have cycled := Nat.mod_lt number (by decide : 0 < 146097)
  obtain ⟨centuries, left, hundred, rest, century, inCycle, few⟩ :=
    exists_quarter (by decide : 0 < 36524) (by omega : number % 146097 ≤ 4 * 36524)
  have fourth := Nat.div_add_mod left 1461
  have shorter := Nat.mod_lt left (by decide : 0 < 1461)
  obtain ⟨years, day, single, last, among, inFour, fewer⟩ :=
    exists_quarter (by decide : 0 < 365) (by omega : left % 1461 ≤ 4 * 365)
  have four : left / 1461 ≤ 24 := by omega
  obtain ⟨year, named⟩ : ∃ year, 400 * (number / 146097) + 100 * centuries + 4 * (left / 1461) +
      years + 1 = year := ⟨_, rfl⟩
  have before := daysBeforeYear_cycles (number / 146097) century four among
  have leap := isLeap_cycles (number / 146097) century four among
  rw [named] at before leap
  have inside : day < daysOfMonths (monthLengths (isLeap year)) := by
    -- Only the last day of a leap year is behind 365 others.
    rw [daysOfMonths_monthLengths]
    split
    · omega
    · next plain =>
      rw [leap] at plain
      omega
  obtain ⟨earlier, month, positive, found⟩ := monthAndDay_eq inside 1
  have date : Date.ofDayNumber number = ⟨year, (monthAndDay 1 day (monthLengths (isLeap year))).1,
      (monthAndDay 1 day (monthLengths (isLeap year))).2⟩ := by
    rw [← named, ← last, ← single, ← rest, ← hundred]
    rfl
  rw [date, dayNumber_eq, month, Nat.add_sub_cancel_left, before]
  dsimp only
  omega

/-- Days with the same date are the same. -/
theorem ofDayNumber_inj {first second : Nat} :
    Date.ofDayNumber first = Date.ofDayNumber second ↔ first = second := by
  constructor
  · intro same
    rw [← dayNumber_ofDayNumber first, same, dayNumber_ofDayNumber]
  · exact congrArg Date.ofDayNumber

end QueryPipeline.Time
