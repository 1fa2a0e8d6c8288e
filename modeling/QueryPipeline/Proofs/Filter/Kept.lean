import QueryPipeline.Proofs.Filter.Day

/-!
# The filters that are kept

A filter that does not fail has a stage or is dropped. It has one exactly where it is complete: its
field is named, its type has its operator, its operand has the shape that the operator takes, and
each text of the operand can be converted to what the type compares. The stage asks for nothing but
the field of the filter, or for the identifier that the filter names.
-/

namespace QueryPipeline

open Document Number Pipeline Time

/-- The text of an operand, or that of the lower end of a range. -/
def Operand.low : Operand → String
  | single text => text
  | between low _ => low

/-- The text of an operand, or that of the upper end of a range. -/
def Operand.high : Operand → String
  | single text => text
  | between _ high => high

/-- Whether an operand is a range. -/
def Operand.isBetween : Operand → Bool
  | single _ => false
  | between _ _ => true

/-- A text can be converted to what a type compares. Texts are compared as they stand. -/
def FilterType.Converts : FilterType → String → Prop
  | amount, text => ∃ x, readDecimal? text.toList = some x
  | date, text => ∃ day, Timestamp.readUtc text.toList = .ok day
  | string, _ | array, _ => True

/-- A value is what a type compares with by an operator, for a text of the operand: a number, a
point of its day in universal time, the keys or the text itself, or an expression that ignores
case. -/
def FilterType.Compares : FilterType → Operator → String → Value → Prop
  | amount, _, text, value => ∃ x, readDecimal? text.toList = some x ∧ value = .float x
  | date, _, text, value => ∃ day clock, Timestamp.readUtc text.toList = .ok day ∧
      clock / dayLength = day.clock / dayLength ∧ value = .date (.utc clock)
  | array, .anyOf, text, value | array, .noneOf, text, value =>
    ∃ keys, Key.listOfText text = .ok keys ∧ value = .array (keys.map Key.toValue)
  | array, _, text, value => value = .text text
  | string, _, _, value => ∃ pattern, value = .regex (.ignoringCase pattern)

/-- A filter is complete, with these parts. -/
structure Filter.IsComplete (filter : Filter) (field : String) (type : FilterType)
    (operator : Operator) (operand : Operand) : Prop where
  /-- No part is missing. -/
  given : filter.field = some field ∧ filter.type = some type ∧ filter.operator = some operator ∧
    filter.operand = some operand
  /-- The field is named. -/
  named : field ≠ ""
  /-- The type has the operator. -/
  supported : isSupported filter.type filter.operator = true
  /-- The operand is a range where the operator takes one. -/
  shaped : operand.isBetween = true ↔ operator = .range
  /-- The lower end can be converted. -/
  low : type.Converts operand.low
  /-- The upper end can be converted. -/
  high : type.Converts operand.high

/-- A filter looks for an identifier: it compares a field that holds one with a text. -/
def Identifies (field : String) (type : FilterType) (operator : Operator) : Prop :=
  type = .string ∧ operator = .equal ∧ field ∈ identifierFields

/-- The queries that ask for one field and no other, with the operands of a filter. -/
inductive AsksOnly (field : String) (type : FilterType) (operator : Operator) (operand : Operand) :
    Value → Prop
  /-- The field passes a test for one text. -/
  | test (name : String) (unranged : operand.isBetween = false) {value : Value}
      (compares : type.Compares operator operand.low value) :
      AsksOnly field type operator operand (single field (single name value))
  /-- The field lies between two values. -/
  | between {low high : Value} (front : type.Compares operator operand.low low)
      (back : type.Compares operator operand.high high) :
      AsksOnly field type operator operand (single "$and"
        (.array [single field (single "$gte" low), single field (single "$lte" high)]))

variable {field : String} {operator : Operator} {condition : Condition}
  {condition? : Option Condition}

section

variable {text : String}

/-- Every text makes a condition for an operator on texts. -/
theorem stringCondition_isSome (supported : FilterType.string.supports operator = true)
    (made : stringCondition field text operator = .ok condition?) : condition?.isSome = true := by
  cases operator with
  | equal =>
    rw [stringCondition] at made
    split at made
    · obtain ⟨identifier, -, rfl⟩ := map_eq_ok made
      rfl
    · cases made
      rfl
  | notEqual | has | hasNot | anyOf | noneOf =>
    cases made
    rfl
  | range | less | greater | before | after => cases supported

/-- A condition on a text asks for its field unless it looks for an identifier. -/
theorem asksOnly_of_stringCondition (plain : ¬Identifies field .string operator)
    (made : stringCondition field text operator = .ok (some condition)) :
    AsksOnly field .string operator (.single text) condition.toValue := by
  cases operator with
  | equal =>
    have other : field ∉ identifierFields := fun identifies => plain ⟨rfl, rfl, identifies⟩
    rw [stringCondition, if_neg (by simpa using other)] at made
    cases made
    exact .test "$regex" rfl ⟨_, rfl⟩
  | has | anyOf =>
    cases made
    exact .test "$regex" rfl ⟨_, rfl⟩
  | notEqual | hasNot | noneOf =>
    cases made
    exact .test "$not" rfl ⟨_, rfl⟩
  | range | less | greater | before | after => cases made

/-- Every text makes a condition for an operator on arrays. -/
theorem arrayCondition_isSome (supported : FilterType.array.supports operator = true)
    (made : arrayCondition field text operator = .ok condition?) : condition?.isSome = true := by
  cases operator with
  | equal | notEqual =>
    cases made
    rfl
  | anyOf | noneOf =>
    obtain ⟨keys, -, rfl⟩ := map_eq_ok made
    rfl
  | has | hasNot | range | less | greater | before | after => cases supported

/-- A condition on an array asks for its field. -/
theorem asksOnly_of_arrayCondition
    (made : arrayCondition field text operator = .ok (some condition)) :
    AsksOnly field .array operator (.single text) condition.toValue := by
  cases operator with
  | equal =>
    cases made
    exact .test "$eq" rfl rfl
  | notEqual =>
    cases made
    exact .test "$ne" rfl rfl
  | anyOf =>
    obtain ⟨keys, read, same⟩ := map_eq_ok made
    cases same
    exact .test "$in" rfl ⟨keys, read, rfl⟩
  | noneOf =>
    obtain ⟨keys, read, same⟩ := map_eq_ok made
    cases same
    exact .test "$nin" rfl ⟨keys, read, rfl⟩
  | has | hasNot | range | less | greater | before | after => cases made

end

variable {operand : Operand}

/-- The operand of a range is a range, and no other is. -/
theorem Operand.fits_iff :
    operand.fits operator = true ↔ (operand.isBetween = true ↔ operator = .range) := by
  cases operand <;> simp [Operand.fits, Operand.isBetween]

/-- Every number makes a test for an operator on numbers that takes one. -/
theorem amountTest?_isSome (supported : FilterType.amount.supports operator = true)
    (unranged : operator ≠ .range) (x : Binary64) : ∃ test, amountTest? x operator = some test := by
  cases operator with
  | equal | notEqual | less | greater => exact ⟨_, rfl⟩
  | range => exact absurd rfl unranged
  | has | hasNot | anyOf | noneOf | before | after => cases supported

/-- An operator on numbers makes a condition exactly where the texts denote numbers. -/
theorem amountCondition?_isSome_iff (supported : FilterType.amount.supports operator = true)
    (fits : operand.fits operator = true) :
    (amountCondition? field operator operand).isSome = true ↔
      FilterType.amount.Converts operand.low ∧ FilterType.amount.Converts operand.high := by
  simp only [FilterType.Converts, ← Option.isSome_iff_exists]
  cases operand with
  | single text =>
    have unranged : operator ≠ .range := Operand.single_fits_iff.mp fits
    rw [amountCondition?, Operand.low, Operand.high, and_self]
    cases readDecimal? text.toList with
    | none => rfl
    | some x =>
      obtain ⟨test, chosen⟩ := amountTest?_isSome supported unranged x
      simp [chosen]
  | between low high =>
    rw [amountCondition?, Operand.low, Operand.high]
    cases readDecimal? low.toList <;> cases readDecimal? high.toList <;> simp

/-- A condition on a number asks for its field. -/
theorem asksOnly_of_amountCondition?
    (made : amountCondition? field operator operand = some condition) :
    AsksOnly field .amount operator operand condition.toValue := by
  cases operand with
  | single text =>
    obtain ⟨x, read, tested⟩ := Option.bind_eq_some_iff.mp made
    obtain ⟨test, chosen, same⟩ := Option.bind_eq_some_iff.mp tested
    cases same
    cases operator with
    | equal | notEqual | less | greater =>
      cases chosen
      exact .test _ rfl ⟨x, read, rfl⟩
    | has | hasNot | anyOf | noneOf | range | before | after => cases chosen
  | between low high =>
    obtain ⟨x, read, other⟩ := Option.bind_eq_some_iff.mp made
    obtain ⟨y, found, same⟩ := Option.bind_eq_some_iff.mp other
    cases same
    exact .between ⟨x, read, rfl⟩ ⟨y, found, rfl⟩

/-- A text can be converted to a day where one is told. -/
theorem isSome_iff_converts {text : String} {day? : Option Timestamp}
    (told : readDay text = .ok day?) : day?.isSome = true ↔ FilterType.date.Converts text := by
  rw [Option.isSome_iff_exists]
  exact exists_congr (readDay_eq_ok told)

/-- Every day makes a condition for an operator on days that takes one. -/
theorem dayCondition?_isSome (supported : FilterType.date.supports operator = true)
    (unranged : operator ≠ .range) (day : Timestamp) :
    (dayCondition? field day operator).isSome = true := by
  cases operator with
  | equal | before | after => rfl
  | range => exact absurd rfl unranged
  | notEqual | has | hasNot | anyOf | noneOf | less | greater => cases supported

/-- The condition of a range of days is made of what is told of its ends. -/
theorem dateCondition_between_eq_ok {low high : String}
    (made : dateCondition field operator (.between low high) = .ok condition?) :
    readDay low = .ok none ∧ condition? = none ∨
      ∃ first last?, readDay low = .ok (some first) ∧ readDay high = .ok last? ∧
        condition? = last?.map (daysCondition field first) := by
  obtain ⟨first?, told, others⟩ := bind_eq_ok made
  cases first? with
  | none => exact .inl ⟨told, (Except.ok.inj others).symm⟩
  | some first =>
    obtain ⟨last?, found, rfl⟩ := map_eq_ok others
    exact .inr ⟨first, last?, told, found, rfl⟩

/-- An operator on days makes a condition exactly where the texts denote days. -/
theorem dateCondition_isSome_iff (supported : FilterType.date.supports operator = true)
    (fits : operand.fits operator = true)
    (made : dateCondition field operator operand = .ok condition?) :
    condition?.isSome = true ↔
      FilterType.date.Converts operand.low ∧ FilterType.date.Converts operand.high := by
  cases operand with
  | single text =>
    have unranged : operator ≠ .range := Operand.single_fits_iff.mp fits
    obtain ⟨day?, told, rfl⟩ := map_eq_ok made
    rw [Operand.low, Operand.high, and_self, ← isSome_iff_converts told]
    cases day? with
    | none => rfl
    | some day => exact iff_of_true (dayCondition?_isSome supported unranged day) rfl
  | between low high =>
    rw [Operand.low, Operand.high]
    obtain ⟨told, rfl⟩ | ⟨first, last?, told, found, rfl⟩ := dateCondition_between_eq_ok made
    · rw [← isSome_iff_converts told]
      simp
    · rw [← isSome_iff_converts told, ← isSome_iff_converts found]
      simp

/-- The bounds of a day are points of it in universal time. -/
theorem compares_bounds (operator : Operator) {text : String} {day : Timestamp}
    (read : Timestamp.readUtc text.toList = .ok day) :
    FilterType.date.Compares operator text (.date day.startOfDay) ∧
      FilterType.date.Compares operator text (.date day.endOfDay) := by
  constructor
  · refine ⟨day, _, read, ?_, rfl⟩
    rw [dayLength]
    omega
  · refine ⟨day, _, read, ?_, rfl⟩
    rw [dayLength]
    omega

/-- A condition on days asks for its field. -/
theorem asksOnly_of_dateCondition
    (made : dateCondition field operator operand = .ok (some condition)) :
    AsksOnly field .date operator operand condition.toValue := by
  cases operand with
  | single text =>
    obtain ⟨day?, told, tested⟩ := map_eq_ok made
    obtain ⟨day, rfl, same⟩ := Option.bind_eq_some_iff.mp tested
    have bounds := compares_bounds operator ((readDay_eq_ok told day).mp rfl)
    cases operator with
    | equal =>
      cases same
      exact .between bounds.1 bounds.2
    | before =>
      cases same
      exact .test "$lt" rfl bounds.1
    | after =>
      cases same
      exact .test "$gt" rfl bounds.2
    | notEqual | has | hasNot | anyOf | noneOf | range | less | greater => cases same
  | between low high =>
    obtain ⟨-, none⟩ | ⟨first, last?, told, found, made⟩ := dateCondition_between_eq_ok made
    · cases none
    · obtain ⟨last, rfl, rfl⟩ := Option.map_eq_some_iff.mp made.symm
      exact .between (compares_bounds operator ((readDay_eq_ok told first).mp rfl)).1
        (compares_bounds operator ((readDay_eq_ok found last).mp rfl)).2

variable {type : FilterType}

/-- The condition of a filter is made exactly where each text can be converted. -/
theorem conditionOf_isSome_iff (supported : type.supports operator = true)
    (fits : operand.fits operator = true)
    (made : conditionOf field type operator operand = .ok condition?) :
    condition?.isSome = true ↔ type.Converts operand.low ∧ type.Converts operand.high := by
  have ranged := Operand.fits_iff.mp fits
  cases type with
  | string =>
    cases operand with
    | single text => exact iff_of_true (stringCondition_isSome supported made) ⟨trivial, trivial⟩
    | between low high =>
      rw [ranged.mp rfl] at supported
      cases supported
  | array =>
    cases operand with
    | single text => exact iff_of_true (arrayCondition_isSome supported made) ⟨trivial, trivial⟩
    | between low high =>
      rw [ranged.mp rfl] at supported
      cases supported
  | amount =>
    obtain rfl := Except.ok.inj made
    exact amountCondition?_isSome_iff supported fits
  | date => exact dateCondition_isSome_iff supported fits made

/-- The condition of a filter asks for its field unless it looks for an identifier. -/
theorem asksOnly_of_conditionOf (plain : ¬Identifies field type operator)
    (made : conditionOf field type operator operand = .ok (some condition)) :
    AsksOnly field type operator operand condition.toValue := by
  cases type with
  | string =>
    cases operand with
    | single text => exact asksOnly_of_stringCondition plain made
    | between low high => cases made
  | array =>
    cases operand with
    | single text => exact asksOnly_of_arrayCondition made
    | between low high => cases made
  | amount => exact asksOnly_of_amountCondition? (Except.ok.inj made)
  | date => exact asksOnly_of_dateCondition made

/-- A filter that looks for an identifier asks for the forms of the one that its text denotes. -/
theorem identified_of_conditionOf (identifies : Identifies field type operator)
    (made : conditionOf field type operator operand = .ok (some condition)) :
    ∃ identifier, Identifier.ofText operand.low = .ok identifier ∧
      condition = .identified identifier := by
  obtain ⟨rfl, rfl, inside⟩ := identifies
  cases operand with
  | single text =>
    rw [conditionOf, stringCondition, if_pos (List.contains_iff_mem.mpr inside)] at made
    obtain ⟨identifier, read, same⟩ := map_eq_ok made
    exact ⟨identifier, read, (Option.some.inj same).symm⟩
  | between low high => cases made

/-- The clauses for an identifier ask for the fields that hold identifiers. -/
theorem mem_identifierClauses {identifier : Identifier} {clause : Value}
    (mem : clause ∈ identifierClauses identifier) :
    ∃ name ∈ identifierFields, ∃ key, clause = single name key := by
  simp only [identifierClauses, List.mem_append, List.mem_cons, Option.mem_toList,
    Option.map_eq_some_iff, List.not_mem_nil, or_false] at mem
  obtain (rfl | ⟨number, -, rfl⟩) | rfl := mem
  · exact ⟨"id", by decide, _, rfl⟩
  · exact ⟨"id", by decide, _, rfl⟩
  · exact ⟨"_id", by decide, _, rfl⟩

/-- The type of a complete filter has the operator. -/
theorem Filter.IsComplete.supports {filter : Filter}
    (complete : filter.IsComplete field type operator operand) :
    type.supports operator = true := by
  obtain ⟨-, typed, asked, -⟩ := complete.given
  have supported := complete.supported
  rwa [typed, asked] at supported

/-- The condition of a complete filter is made of its parts. -/
theorem Filter.IsComplete.condition_eq {filter : Filter}
    (complete : filter.IsComplete field type operator operand) :
    filter.condition = conditionOf field type operator operand := by
  obtain ⟨named, typed, asked, valued⟩ := complete.given
  rw [Filter.condition, named, typed, asked, valued]
  exact if_pos ⟨complete.named, complete.supports, Operand.fits_iff.mpr complete.shaped⟩

/-- A filter that has a condition is complete. -/
theorem Filter.isComplete_of_condition {share : Option String}
    (made : Filter.condition ⟨some field, some type, some operator, some operand, share⟩ =
      .ok (some condition)) :
    IsComplete ⟨some field, some type, some operator, some operand, share⟩ field type operator
      operand := by
  rw [Filter.condition] at made
  dsimp only at made
  split at made
  · next sound =>
    have converts := (conditionOf_isSome_iff sound.2.1 sound.2.2 made).mp rfl
    exact ⟨⟨rfl, rfl, rfl, rfl⟩, sound.1, sound.2.1, Operand.fits_iff.mp sound.2.2, converts.1,
      converts.2⟩
  · cases made

/-- A filter that has a condition has all parts. -/
theorem Filter.exists_isComplete {filter : Filter}
    (made : filter.condition = .ok (some condition)) :
    ∃ field type operator operand, filter.IsComplete field type operator operand := by
  obtain ⟨_ | field, _ | type, _ | operator, _ | operand, share⟩ := filter
  case some.some.some.some => exact ⟨_, _, _, _, isComplete_of_condition made⟩
  all_goals cases made

/-- Which filters are kept, and what they ask for. A filter that does not fail has a stage exactly
where it is complete. The stage selects by one query, which asks for the field of the filter alone,
with the operands that its type compares, or for the forms of an identifier. -/
theorem kept_iff_complete {filter : Filter} {condition? : Option Condition}
    (made : filter.condition = .ok condition?) :
    (condition?.isSome = true ↔
      ∃ field type operator operand, filter.IsComplete field type operator operand) ∧
    ∀ field type operator operand, filter.IsComplete field type operator operand →
      ∀ condition, condition? = some condition →
        ∃ query, (Stage.select condition).members = [("$match", query)] ∧
          (¬Identifies field type operator → AsksOnly field type operator operand query) ∧
          (Identifies field type operator →
            ∃ identifier, Identifier.ofText operand.low = .ok identifier ∧
              query = single "$or" (.array (identifierClauses identifier)) ∧
              ∀ clause ∈ identifierClauses identifier,
                ∃ name ∈ identifierFields, ∃ key, clause = single name key) := by
  constructor
  · constructor
    · intro kept
      obtain ⟨condition, rfl⟩ := Option.isSome_iff_exists.mp kept
      exact Filter.exists_isComplete made
    · intro parts
      obtain ⟨field, type, operator, operand, complete⟩ := parts
      have fits := Operand.fits_iff.mpr complete.shaped
      rw [complete.condition_eq] at made
      exact (conditionOf_isSome_iff complete.supports fits made).mpr ⟨complete.low, complete.high⟩
  · rintro field type operator operand complete condition rfl
    rw [complete.condition_eq] at made
    refine ⟨condition.toValue, rfl, fun plain => asksOnly_of_conditionOf plain made, ?_⟩
    intro identifies
    obtain ⟨identifier, read, rfl⟩ := identified_of_conditionOf identifies made
    exact ⟨identifier, read, rfl, fun clause mem => mem_identifierClauses mem⟩

/-- A filter for two tags, of which the second is an object identifier. -/
def tagFilter : Filter :=
  ⟨some "tags", some .array, some .anyOf, some (.single "red,507f1f77bcf86cd799439011"), none⟩

/-- Those two tags. -/
def twoTags : List Key := [.text "red", .objectId ⟨0x507f1f77bcf86cd799439011, by decide⟩]

/-- The filter for two tags is kept, and its query asks for nothing but tags. -/
theorem tag_filter_kept :
    tagFilter.condition = .ok (some (.field "tags" (.among twoTags))) ∧
      tagFilter.IsComplete "tags" .array .anyOf (.single "red,507f1f77bcf86cd799439011") ∧
      AsksOnly "tags" .array .anyOf (.single "red,507f1f77bcf86cd799439011")
        (single "tags" (single "$in" (.array (twoTags.map Key.toValue)))) := by
  have complete :
      tagFilter.IsComplete "tags" .array .anyOf (.single "red,507f1f77bcf86cd799439011") :=
    ⟨⟨rfl, rfl, rfl, rfl⟩, by decide, rfl, by decide, trivial, trivial⟩
  have listed : Key.listOfText "red,507f1f77bcf86cd799439011" = .ok twoTags :=
    eq_ok_of_toOption (by decide +kernel)
  have made : tagFilter.condition = .ok (some (.field "tags" (.among twoTags))) := by
    rw [complete.condition_eq, conditionOf, arrayCondition, listed]
    rfl
  obtain ⟨query, sent, only, -⟩ := (kept_iff_complete made).2 _ _ _ _ complete _ rfl
  obtain rfl : single "tags" (single "$in" (.array (twoTags.map Key.toValue))) = query :=
    congrArg Prod.snd (List.cons.inj sent).1
  exact ⟨made, complete, only fun identifies => by cases identifies.1⟩

end QueryPipeline
