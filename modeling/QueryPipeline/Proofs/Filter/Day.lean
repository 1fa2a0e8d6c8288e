import QueryPipeline.Proofs.Filter.Compile
import QueryPipeline.Proofs.Pipeline.Query
import QueryPipeline.Proofs.Time.Day

/-!
# Filters on days

The filters before, on and after a day share the bounds of the day. They part time among them: each
point in time that a document can hold passes exactly one of them, and the one on the day is passed
on its date in universal time. A range of days is what neither comes before its first day nor after
its last.
-/

namespace QueryPipeline

open Document Pipeline Time

/-- A filter on days. -/
def dayFilter (field : String) (operator : Operator) (operand : Operand) : Filter :=
  ⟨some field, some .date, some operator, some operand, none⟩

/-- A day can be told where its text denotes a point in universal time. -/
theorem readDay_of_readUtc {text : String} {day : Timestamp}
    (read : Timestamp.readUtc text.toList = .ok day) : readDay text = .ok (some day) := by
  rw [readDay, read]

/-- Where telling a day does not fail, what is told is what its text denotes. -/
theorem readDay_eq_ok {text : String} {day? : Option Timestamp}
    (told : readDay text = .ok day?) (day : Timestamp) :
    day? = some day ↔ Timestamp.readUtc text.toList = .ok day := by
  constructor
  · rintro rfl
    rw [readDay] at told
    split at told
    · next read =>
      cases told
      exact read
    · cases told
    · cases told
  · intro read
    rw [readDay_of_readUtc read] at told
    exact (Except.ok.inj told).symm

section

variable {field : String} (named : field ≠ "")
include named

/-- A filter on days compiles to its condition. -/
theorem compile_dayFilter {operator : Operator} {operand : Operand} {condition : Condition}
    (supported : FilterType.date.supports operator = true) (fits : operand.fits operator = true)
    (made : dateCondition field operator operand = .ok (some condition)) :
    compile [dayFilter field operator operand] = .ok [.select condition] := by
  have complete : (dayFilter field operator operand).condition = .ok (some condition) := by
    rw [Filter.condition, dayFilter]
    dsimp only
    rw [if_pos ⟨named, supported, fits⟩]
    exact made
  rw [compile_singleton, complete]
  rfl

/-- A filter on one day compiles to its condition on that day. -/
theorem compile_single {text : String} {day : Timestamp} {operator : Operator}
    {condition : Condition} (read : Timestamp.readUtc text.toList = .ok day)
    (supported : FilterType.date.supports operator = true) (single : operator ≠ .range)
    (made : dayCondition? field day operator = some condition) :
    compile [dayFilter field operator (.single text)] = .ok [.select condition] := by
  refine compile_dayFilter named supported (Operand.single_fits_iff.mpr single) ?_
  rw [dateCondition, readDay_of_readUtc read]
  exact congrArg Except.ok made

/-- A filter on a range of days compiles to the condition between its bounds. -/
theorem compile_range {first last : String} {start finish : Timestamp}
    (read : Timestamp.readUtc first.toList = .ok start)
    (found : Timestamp.readUtc last.toList = .ok finish) :
    compile [dayFilter field .range (.between first last)] =
      .ok [.select (daysCondition field start finish)] := by
  refine compile_dayFilter named rfl rfl ?_
  rw [dateCondition, readDay_of_readUtc read]
  change (readDay last).map _ = _
  rw [readDay_of_readUtc found]
  rfl

end

section

variable {Row : Type} (reading : QueryReading Row) {field : String} {row : Row}
  {moment : Timestamp} (holds : reading.moment? field row = some moment)
include holds

/-- What is before a day is on an earlier one. -/
theorem satisfies_beforeDay_iff (day : Timestamp) :
    reading.satisfies (Condition.field field (.below (.date day.startOfDay))).toValue row = true ↔
      moment.instant / dayLength < day.clock / dayLength := by
  rw [reading.satisfies_below holds, Timestamp.lt_startOfDay_iff]

/-- What is after a day is on a later one. -/
theorem satisfies_afterDay_iff (stored : moment.IsStorable) (day : Timestamp) :
    reading.satisfies (Condition.field field (.above (.date day.endOfDay))).toValue row = true ↔
      day.clock / dayLength < moment.instant / dayLength := by
  rw [reading.satisfies_above holds, Timestamp.endOfDay_lt_iff _ _ stored.whole]

/-- What is on the days from one to another is neither before the one nor after the other. -/
theorem satisfies_days_iff (stored : moment.IsStorable) (first last : Timestamp) :
    reading.satisfies (daysCondition field first last).toValue row = true ↔
      first.clock / dayLength ≤ moment.instant / dayLength ∧
        moment.instant / dayLength ≤ last.clock / dayLength := by
  have front := Timestamp.lt_startOfDay_iff first moment
  have back := Timestamp.endOfDay_lt_iff last moment stored.whole
  rw [daysCondition, reading.satisfies_between holds]
  omega

end

/-- Filters on days part time. For every text that denotes a point in universal time, the filters
before, on and after its day compile, and of their stages a field that holds a point in time in
whole milliseconds of the years 1 to 9999 satisfies exactly one: that on the day where the date is
that of the instant that the text denotes. A range of days is satisfied exactly where neither the
stage before its first day nor that after its last day is. -/
theorem day_filters_part_time {field : String} (named : field ≠ "") {Row : Type}
    (reading : QueryReading Row) :
    (∀ (text : String) (day : Timestamp), Timestamp.readUtc text.toList = .ok day →
      ∃ denoted before on after, Timestamp.read? text.toList = some denoted ∧
        compile [dayFilter field .before (.single text)] = .ok [.select before] ∧
        compile [dayFilter field .equal (.single text)] = .ok [.select on] ∧
        compile [dayFilter field .after (.single text)] = .ok [.select after] ∧
        ∀ row moment, reading.moment? field row = some moment → moment.IsStorable →
          (reading.satisfies on.toValue row = true ↔ moment.date = denoted.date) ∧
            [before, on, after].countP (reading.satisfies ·.toValue row) = 1) ∧
    ∀ (first last : String) (start finish : Timestamp),
      Timestamp.readUtc first.toList = .ok start → Timestamp.readUtc last.toList = .ok finish →
        ∃ before within after,
          compile [dayFilter field .before (.single first)] = .ok [.select before] ∧
          compile [dayFilter field .range (.between first last)] = .ok [.select within] ∧
          compile [dayFilter field .after (.single last)] = .ok [.select after] ∧
          ∀ row moment, reading.moment? field row = some moment → moment.IsStorable →
            (reading.satisfies within.toValue row = true ↔
              reading.satisfies before.toValue row = false ∧
                reading.satisfies after.toValue row = false) := by
  constructor
  · intro text day read
    obtain ⟨denoted, found, start, -, rfl⟩ := Timestamp.readUtc_eq_ok read
    refine ⟨denoted, _, _, _, found, compile_single named read rfl (by decide) rfl,
      compile_single named read rfl (by decide) rfl, compile_single named read rfl (by decide) rfl,
      fun row moment holds stored => ?_⟩
    have below := satisfies_beforeDay_iff reading holds (.utc denoted.instant)
    have within := satisfies_days_iff reading holds stored (.utc denoted.instant)
      (.utc denoted.instant)
    have above := satisfies_afterDay_iff reading holds stored (.utc denoted.instant)
    have same := Timestamp.date_eq_date_iff stored.start start
    have clock : (Timestamp.utc denoted.instant).clock = denoted.instant := rfl
    rw [clock] at below within above
    constructor
    · rw [within, same]
      omega
    · -- The three bounds exclude each other and leave nothing out.
      simp only [List.countP_cons, List.countP_nil, below, within, above]
      split <;> split <;> split <;> omega
  · intro first last start finish read found
    refine ⟨_, _, _, compile_single named read rfl (by decide) rfl, compile_range named read found,
      compile_single named found rfl (by decide) rfl, fun row moment holds stored => ?_⟩
    have below := satisfies_beforeDay_iff reading holds start
    have within := satisfies_days_iff reading holds stored start finish
    have above := satisfies_afterDay_iff reading holds stored finish
    rw [within, ← Bool.not_eq_true, ← Bool.not_eq_true, below, above]
    omega

/-- A text ahead of universal time, where its day is still the last of February. -/
def leapNight : String := "2024-03-01T00:30:00+01:00"

/-- The start of that day. -/
def leapDay : Timestamp := .utc 63844761600000000

/-- A reading in which no expression matches. -/
def unmatched : QueryReading Members := .plain fun _ _ => false

/-- A document that holds the start of that day. -/
def leapRow : Members := [("when", .date leapDay)]

/-- The night is on the day that has begun in universal time, and so is the start of that day. From
the night up to the second of March the start is neither too early nor too late. -/
theorem leap_night_parted :
    "when" ≠ "" ∧ Timestamp.readUtc leapNight.toList = .ok (.utc 63844846200000000) ∧
      Timestamp.readUtc "2024-03-02".toList = .ok (.utc 63844934400000000) ∧ leapDay.IsStorable ∧
      (∃ on, compile [dayFilter "when" .equal (.single leapNight)] = .ok [.select on] ∧
        unmatched.satisfies on.toValue leapRow = true) ∧
      ∃ before within after,
        compile [dayFilter "when" .before (.single leapNight)] = .ok [.select before] ∧
        compile [dayFilter "when" .range (.between leapNight "2024-03-02")] =
          .ok [.select within] ∧
        compile [dayFilter "when" .after (.single "2024-03-02")] = .ok [.select after] ∧
        (unmatched.satisfies within.toValue leapRow = true ↔
          unmatched.satisfies before.toValue leapRow = false ∧
            unmatched.satisfies after.toValue leapRow = false) := by
  have named : "when" ≠ "" := by decide
  have read : Timestamp.readUtc leapNight.toList = .ok (.utc 63844846200000000) :=
    eq_ok_of_toOption (by decide +kernel)
  have found : Timestamp.readUtc "2024-03-02".toList = .ok (.utc 63844934400000000) :=
    eq_ok_of_toOption (by decide +kernel)
  have stored : leapDay.IsStorable := ⟨by decide, by decide, by decide⟩
  have holds : unmatched.moment? "when" leapRow = some leapDay := rfl
  obtain ⟨parts, ranges⟩ := day_filters_part_time named unmatched
  obtain ⟨denoted, _, on, _, given, -, single, -, told⟩ := parts _ _ read
  obtain ⟨before, within, after, earlier, between, later, ranged⟩ := ranges _ _ _ _ read found
  have night : Timestamp.read? leapNight.toList = some ⟨63844849800000000, some 3600000000⟩ := by
    decide +kernel
  have same : leapDay.date = denoted.date := by
    rw [← Option.some.inj (night.symm.trans given)]
    decide +kernel
  exact ⟨named, read, found, stored, ⟨on, single, (told _ _ holds stored).1.mpr same⟩, before,
    within, after, earlier, between, later, ranged _ _ holds stored⟩

end QueryPipeline
