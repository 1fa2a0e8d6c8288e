import QueryPipeline.Filter.Parser
import QueryPipeline.Proofs.Document.Identifier
import QueryPipeline.Proofs.Filter.Compile

/-!
# Filters that break a compilation

A value that cannot be converted is meant to drop its filter and nothing else. That holds for all
malformed numbers and days. But a well-formed day beyond the calendar, an identifier of too many
digits or with an information separator beside them, and the digits of an object identifier with a
line break after them are not dropped: they fail, and the whole list fails with them.
-/

namespace QueryPipeline

open Document Number Pipeline Text Time

/-- A text denotes a point in time within the years 1 to 9999 of universal time. -/
def IsWithinCalendar (text : String) : Prop :=
  ∃ t, Timestamp.read? text.toList = some t ∧ 0 ≤ t.instant ∧ t.instant < calendarLength

/-- A text denotes a point in time beyond the years 1 to 9999 of universal time. -/
def IsBeyondCalendar (text : String) : Prop :=
  ∃ t, Timestamp.read? text.toList = some t ∧ (t.instant < 0 ∨ calendarLength ≤ t.instant)

/-- A text that denotes no point in time has no day. -/
theorem readDay_of_unread {text : String} (unread : Timestamp.read? text.toList = none) :
    readDay text = .ok none := by
  rw [readDay, Timestamp.readUtc, unread]

/-- A text within the calendar has a day. -/
theorem readDay_of_within {text : String} (within : IsWithinCalendar text) :
    ∃ day, readDay text = .ok (some day) := by
  obtain ⟨t, read, inside⟩ := within
  rw [readDay, Timestamp.readUtc, read]
  exact ⟨.utc t.instant, by simp only [Timestamp.toUtc, Timestamp.toUtc?, if_pos inside]⟩

/-- A text beyond the calendar fails. -/
theorem readDay_of_beyond {text : String} (beyond : IsBeyondCalendar text) :
    ∃ failure, readDay text = .error failure := by
  obtain ⟨t, read, outside⟩ := beyond
  have none : ¬(0 ≤ t.instant ∧ t.instant < calendarLength) := by omega
  rw [readDay, Timestamp.readUtc, read]
  exact ⟨.ofDate .outOfRange, by simp only [Timestamp.toUtc, Timestamp.toUtc?, if_neg none]⟩

/-- A text denotes no point in time, or one within the calendar, or one beyond it. -/
theorem unread_or_within_or_beyond (text : String) :
    Timestamp.read? text.toList = none ∨ IsWithinCalendar text ∨ IsBeyondCalendar text := by
  cases read : Timestamp.read? text.toList with
  | none => exact .inl rfl
  | some t =>
    by_cases inside : 0 ≤ t.instant ∧ t.instant < calendarLength
    · exact .inr (.inl ⟨t, read, inside⟩)
    · exact .inr (.inr ⟨t, read, by omega⟩)

/-- A day can be told unless it is beyond the calendar. -/
theorem readDay_eq_ok_iff (text : String) :
    (∃ day?, readDay text = .ok day?) ↔ ¬IsBeyondCalendar text := by
  constructor
  · intro given beyond
    obtain ⟨day?, found⟩ := given
    obtain ⟨failure, failed⟩ := readDay_of_beyond beyond
    rw [failed] at found
    cases found
  · intro sound
    obtain unread | within | beyond := unread_or_within_or_beyond text
    · exact ⟨none, readDay_of_unread unread⟩
    · obtain ⟨day, found⟩ := readDay_of_within within
      exact ⟨some day, found⟩
    · exact absurd beyond sound

/-- The operands that break a filter on a field, by its type and its operator. -/
inductive Operand.Breaks (field : String) : FilterType → Operator → Operand → Prop
  /-- The number of an identifier is broken. -/
  | number {text : String} (identifies : field ∈ identifierFields)
      (broken : IsBrokenNumber text.toList) : Breaks field .string .equal (.single text)
  /-- The key of an identifier is broken. -/
  | key {text : String} (identifies : field ∈ identifierFields)
      (broken : IsBrokenKey text.toList) : Breaks field .string .equal (.single text)
  /-- The key of an item is broken. -/
  | item {text : String} {operator : Operator} {item : List Char}
      (listed : operator = .anyOf ∨ operator = .noneOf) (mem : item ∈ splitOn ',' text.toList)
      (broken : IsBrokenKey item) : Breaks field .array operator (.single text)
  /-- The day is beyond the calendar. -/
  | day {text : String} {operator : Operator}
      (asked : operator = .equal ∨ operator = .before ∨ operator = .after)
      (beyond : IsBeyondCalendar text) : Breaks field .date operator (.single text)
  /-- The first day of a range is beyond the calendar. -/
  | firstDay {low high : String} (beyond : IsBeyondCalendar low) :
      Breaks field .date .range (.between low high)
  /-- The last day of a range is beyond the calendar, but not the first. -/
  | lastDay {low high : String} (within : IsWithinCalendar low) (beyond : IsBeyondCalendar high) :
      Breaks field .date .range (.between low high)

/-- A filter breaks if it is complete and its operand does. -/
def Filter.Breaks (filter : Filter) : Prop :=
  ∃ field type operator operand, filter.field = some field ∧ field ≠ "" ∧
    filter.type = some type ∧ filter.operator = some operator ∧ filter.operand = some operand ∧
    operand.Breaks field type operator

/-- The operands that cannot be converted to what the type of a filter compares. -/
inductive Operand.Unreadable : FilterType → Operand → Prop
  /-- The text is no number. -/
  | amount {text : String} (unread : readDecimal? text.toList = none) :
      Unreadable .amount (.single text)
  /-- An end of the range is no number. -/
  | amounts {low high : String}
      (unread : readDecimal? low.toList = none ∨ readDecimal? high.toList = none) :
      Unreadable .amount (.between low high)
  /-- The text is no day. -/
  | day {text : String} (unread : Timestamp.read? text.toList = none) :
      Unreadable .date (.single text)
  /-- The first day of the range is none. -/
  | firstDay {low high : String} (unread : Timestamp.read? low.toList = none) :
      Unreadable .date (.between low high)
  /-- The last day of the range is none, but the first is one. -/
  | lastDay {low high : String} (within : IsWithinCalendar low)
      (unread : Timestamp.read? high.toList = none) : Unreadable .date (.between low high)

/-- A filter is unreadable if its operand is. -/
def Filter.Unreadable (filter : Filter) : Prop :=
  ∃ type operand, filter.type = some type ∧ filter.operand = some operand ∧
    operand.Unreadable type

/-- A condition on a text can be made unless the text breaks it. -/
theorem stringCondition_eq_ok_iff (field text : String) (operator : Operator) :
    (∃ condition?, stringCondition field text operator = .ok condition?) ↔
      ¬(Operand.single text).Breaks field .string operator := by
  cases operator with
  | equal =>
    rw [stringCondition]
    split
    · next identifies =>
      rw [exists_map_eq_ok_iff, Identifier.ofText_eq_ok_iff]
      constructor
      · intro sound breaks
        cases breaks with
        | number _ broken => exact sound.1 broken
        | key _ broken => exact sound.2 broken
      · intro sound
        have inside : field ∈ identifierFields := by simpa using identifies
        constructor
        · intro broken
          exact sound (.number inside broken)
        · intro broken
          exact sound (.key inside broken)
    · next other =>
      refine iff_of_true ⟨_, rfl⟩ fun breaks => ?_
      cases breaks with
      | number identifies | key identifies => exact other (by simpa using identifies)
  | _ =>
    refine iff_of_true ⟨_, rfl⟩ fun breaks => ?_
    cases breaks

/-- A condition on an array can be made unless an item of the text breaks it. -/
theorem arrayCondition_eq_ok_iff (field text : String) (operator : Operator) :
    (∃ condition?, arrayCondition field text operator = .ok condition?) ↔
      ¬(Operand.single text).Breaks field .array operator := by
  cases operator with
  | anyOf | noneOf =>
    rw [arrayCondition, exists_map_eq_ok_iff, Key.listOfText_eq_ok_iff]
    constructor
    · intro sound breaks
      cases breaks with
      | item _ mem broken => exact sound _ mem broken
    · intro sound item mem broken
      exact sound (.item (by simp) mem broken)
  | _ =>
    refine iff_of_true ⟨_, rfl⟩ fun breaks => ?_
    cases breaks with
    | item listed => simp at listed

/-- A condition on days can be made unless a day breaks it. -/
theorem dateCondition_eq_ok_iff {field : String} {operator : Operator} {operand : Operand}
    (supported : FilterType.date.supports operator = true)
    (fits : operand.fits operator = true) :
    (∃ condition?, dateCondition field operator operand = .ok condition?) ↔
      ¬operand.Breaks field .date operator := by
  cases operand with
  | single text =>
    have among : operator = .equal ∨ operator = .range ∨ operator = .before ∨
        operator = .after := by
      simpa [FilterType.supports, FilterType.operators] using supported
    have single : operator ≠ .range := Operand.single_fits_iff.mp fits
    have asked : operator = .equal ∨ operator = .before ∨ operator = .after := by
      obtain equal | range | others := among
      · exact .inl equal
      · exact absurd range single
      · exact .inr others
    rw [dateCondition, exists_map_eq_ok_iff, readDay_eq_ok_iff]
    constructor
    · intro sound breaks
      cases breaks with
      | day _ beyond => exact sound beyond
    · intro sound beyond
      exact sound (.day asked beyond)
  | between low high =>
    have ranged : operator = .range := Operand.between_fits_iff.mp fits
    subst ranged
    rw [dateCondition]
    obtain unread | within | beyond := unread_or_within_or_beyond low
    · rw [readDay_of_unread unread]
      refine iff_of_true ⟨_, rfl⟩ fun breaks => ?_
      cases breaks with
      | firstDay beyond =>
        obtain ⟨t, read, -⟩ := beyond
        rw [unread] at read
        cases read
      | lastDay within =>
        obtain ⟨t, read, -⟩ := within
        rw [unread] at read
        cases read
    · obtain ⟨first, found⟩ := readDay_of_within within
      rw [found]
      change (∃ condition?, (readDay high).map _ = .ok condition?) ↔ _
      rw [exists_map_eq_ok_iff, readDay_eq_ok_iff]
      constructor
      · intro sound breaks
        cases breaks with
        | firstDay beyond =>
          obtain ⟨failure, failed⟩ := readDay_of_beyond beyond
          rw [failed] at found
          cases found
        | lastDay _ beyond => exact sound beyond
      · intro sound beyond
        exact sound (.lastDay within beyond)
    · obtain ⟨failure, failed⟩ := readDay_of_beyond beyond
      rw [failed]
      exact iff_of_false (not_exists_error_eq_ok _) fun sound => sound (.firstDay beyond)

/-- A condition can be made of a complete filter unless its operand breaks it. -/
theorem conditionOf_eq_ok_iff {field : String} {type : FilterType} {operator : Operator}
    {operand : Operand} (supported : type.supports operator = true)
    (fits : operand.fits operator = true) :
    (∃ condition?, conditionOf field type operator operand = .ok condition?) ↔
      ¬operand.Breaks field type operator := by
  cases type with
  | string =>
    cases operand with
    | single text => exact stringCondition_eq_ok_iff field text operator
    | between low high =>
      refine iff_of_true ⟨_, rfl⟩ fun breaks => ?_
      cases breaks
  | array =>
    cases operand with
    | single text => exact arrayCondition_eq_ok_iff field text operator
    | between low high =>
      refine iff_of_true ⟨_, rfl⟩ fun breaks => ?_
      cases breaks
  | amount =>
    refine iff_of_true ⟨_, rfl⟩ fun breaks => ?_
    cases breaks
  | date => exact dateCondition_eq_ok_iff supported fits

/-- An operand that breaks is one that its operator takes, and the operator is one of its type. -/
theorem Operand.Breaks.supported {field : String} {type : FilterType} {operator : Operator}
    {operand : Operand} (breaks : operand.Breaks field type operator) :
    type.supports operator = true ∧ operand.fits operator = true := by
  cases breaks with
  | number | key | firstDay | lastDay => exact ⟨rfl, rfl⟩
  | item listed => obtain rfl | rfl := listed <;> exact ⟨rfl, rfl⟩
  | day asked => obtain rfl | rfl | rfl := asked <;> exact ⟨rfl, rfl⟩

/-- A filter has a condition or is dropped, unless it breaks. -/
theorem Filter.condition_eq_ok_iff (filter : Filter) :
    (∃ condition?, filter.condition = .ok condition?) ↔ ¬filter.Breaks := by
  obtain ⟨_ | field, _ | type, _ | operator, _ | operand, share⟩ := filter
  case some.some.some.some =>
    have same : Filter.Breaks ⟨some field, some type, some operator, some operand, share⟩ ↔
        field ≠ "" ∧ operand.Breaks field type operator := by
      constructor
      · rintro ⟨_, _, _, _, ⟨⟩, named, ⟨⟩, ⟨⟩, ⟨⟩, breaks⟩
        exact ⟨named, breaks⟩
      · rintro ⟨named, breaks⟩
        exact ⟨_, _, _, _, rfl, named, rfl, rfl, rfl, breaks⟩
    rw [same, Filter.condition]
    dsimp only
    split
    · next complete =>
      rw [conditionOf_eq_ok_iff complete.2.1 complete.2.2]
      exact not_congr ⟨fun breaks => ⟨complete.1, breaks⟩, fun breaks => breaks.2⟩
    · next other =>
      refine iff_of_true ⟨_, rfl⟩ fun breaks => ?_
      exact other ⟨breaks.1, breaks.2.supported⟩
  all_goals
    refine iff_of_true ⟨_, rfl⟩ ?_
    rintro ⟨_, _, _, _, ⟨⟩, _, ⟨⟩, ⟨⟩, ⟨⟩, _⟩

/-- An operand that cannot be converted makes no condition. -/
theorem conditionOf_of_unreadable {type : FilterType} {operand : Operand}
    (unreadable : operand.Unreadable type) (field : String) (operator : Operator) :
    conditionOf field type operator operand = .ok none := by
  cases unreadable with
  | amount unread =>
    rw [conditionOf, amountCondition?, unread]
    rfl
  | @amounts low high unread =>
    rw [conditionOf, amountCondition?]
    obtain unread | unread := unread
    · rw [unread]
      rfl
    · rw [unread]
      cases readDecimal? low.toList <;> rfl
  | day unread =>
    rw [conditionOf, dateCondition, readDay_of_unread unread]
    rfl
  | firstDay unread =>
    rw [conditionOf, dateCondition, readDay_of_unread unread]
    rfl
  | lastDay within unread =>
    obtain ⟨first, found⟩ := readDay_of_within within
    rw [conditionOf, dateCondition, found]
    change (readDay _).map _ = _
    rw [readDay_of_unread unread]
    rfl

/-- A filter that is unreadable is dropped. -/
theorem Filter.condition_of_unreadable {filter : Filter} (unreadable : filter.Unreadable) :
    filter.condition = .ok none := by
  obtain ⟨field?, type?, operator?, operand?, share⟩ := filter
  obtain ⟨type, operand, rfl, rfl, unread⟩ := unreadable
  cases field? with
  | none => rfl
  | some field =>
    cases operator? with
    | none => rfl
    | some operator =>
      rw [Filter.condition]
      dsimp only
      split
      · exact conditionOf_of_unreadable unread field operator
      · rfl

/-- A list compiles to the same without a filter that is dropped. -/
theorem compile_append_cons {filter : Filter} (dropped : filter.condition = .ok none)
    (front back : List Filter) : compile (front ++ filter :: back) = compile (front ++ back) := by
  induction front with
  | nil =>
    rw [List.nil_append, List.nil_append, compile, dropped]
    cases compile back <;> rfl
  | cons first rest ih =>
    rw [List.cons_append, compile_cons first, ih, ← compile_cons, List.cons_append]

/-- When texts compile, and to what. The list fails exactly where a filter breaks on its own: by a
day beyond the calendar, a broken number or a broken key. Otherwise it gives, in order, what the
texts give one by one, and a value that is no number or no day drops its own filter alone. -/
theorem compile_read_iff (texts : List String) :
    ((∃ stages, compile (texts.map Filter.read) = .ok stages) ↔
      ∀ text ∈ texts, ¬(Filter.read text).Breaks) ∧
    (∀ stages, compile (texts.map Filter.read) = .ok stages ↔
      ∃ parts : List (List Stage),
        texts.map (fun text => compile [Filter.read text]) = parts.map .ok ∧
          stages = parts.flatten) ∧
    ∀ front text back, texts = front ++ text :: back → (Filter.read text).Unreadable →
      compile [Filter.read text] = .ok [] ∧
        compile (texts.map Filter.read) = compile ((front ++ back).map Filter.read) := by
  refine ⟨?_, ?_, ?_⟩
  · rw [compile_succeeds_iff, List.forall_mem_map]
    exact forall₂_congr fun text _ => (Filter.read text).condition_eq_ok_iff
  · intro stages
    rw [compile_eq_ok_iff, List.map_map]
    rfl
  · rintro front text back rfl unreadable
    have dropped := Filter.condition_of_unreadable unreadable
    constructor
    · rw [compile_singleton, dropped]
      rfl
    · rw [List.map_append, List.map_cons, List.map_append]
      exact compile_append_cons dropped _ _

/-- A day at the edge of the calendar, a number beside an information separator and an object
identifier before a line break each fail on their own. -/
theorem malformed_values_fail :
    (¬∃ stages, compile (["when|date|eq|0001-01-01T00:00:00+01:00"].map Filter.read) =
      .ok stages) ∧
    (¬∃ stages, compile (["id|string|eq|\x1f7"].map Filter.read) = .ok stages) ∧
    ¬∃ stages, compile (["id|string|eq|507f1f77bcf86cd799439011\n"].map Filter.read) =
      .ok stages := by
  have failed : ∀ text ∈ ["when|date|eq|0001-01-01T00:00:00+01:00", "id|string|eq|\x1f7",
      "id|string|eq|507f1f77bcf86cd799439011\n"],
      (compile ([text].map Filter.read)).isOk = false := by decide +kernel
  have none : ∀ text, (compile ([text].map Filter.read)).isOk = false →
      ¬∃ stages, compile ([text].map Filter.read) = .ok stages := by
    intro text fails given
    obtain ⟨stages, compiled⟩ := given
    rw [compiled] at fails
    cases fails
  exact ⟨none _ (failed _ (by decide)), none _ (failed _ (by decide)),
    none _ (failed _ (by decide))⟩

end QueryPipeline
