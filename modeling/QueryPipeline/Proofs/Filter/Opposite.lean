import QueryPipeline.Proofs.Filter.Kept
import QueryPipeline.Proofs.Pipeline.Query

/-!
# Opposite filters

A filter for equality, for a part of a text or for one of several operands has an opposite of the
same type. Both ask for the same operand, by opposite operators, so every row passes one of the two.
The exception is equality on a field that holds identifiers: there the identifier is looked for in
all its forms, while the opposite filter still rules out the text alone.
-/

namespace QueryPipeline

open Document Number Pipeline

/-- The operator that asks for the opposite. -/
def Operator.opposite? : Operator → Option Operator
  | equal => some notEqual
  | has => some hasNot
  | anyOf => some noneOf
  | notEqual | hasNot | noneOf | range | less | greater | before | after => none

/-- Two tests ask for the same operand by opposite operators. -/
def Pipeline.Test.IsOppositeOf (other test : Test) : Prop :=
  ∃ pair ∈ opposites, ∃ operand, test.member = (pair.1, operand) ∧ other.member = (pair.2, operand)

section

variable {test other : Test}

/-- What differs is opposite to what equals. -/
theorem differs_isOppositeOf (operand : Value) :
    (Test.differs operand).IsOppositeOf (.equals operand) :=
  ⟨("$eq", "$ne"), by decide, operand, rfl, rfl⟩

/-- What does not match is opposite to what matches. -/
theorem notMatching_isOppositeOf (expression : Regex) :
    (Test.notMatching expression).IsOppositeOf (.matching expression) :=
  ⟨("$regex", "$not"), by decide, .regex expression, rfl, rfl⟩

/-- What is none of some keys is opposite to what is one of them. -/
theorem notAmong_isOppositeOf (keys : List Key) :
    (Test.notAmong keys).IsOppositeOf (.among keys) :=
  ⟨("$in", "$nin"), by decide, .array (keys.map Key.toValue), rfl, rfl⟩

/-- Of two opposite tests a row passes one. -/
theorem Pipeline.Test.IsOppositeOf.satisfies (opposite : other.IsOppositeOf test) {Row : Type}
    (reading : QueryReading Row) {field : String} (named : IsFieldName field) (row : Row) :
    reading.satisfies (Condition.field field other).toValue row =
      !reading.satisfies (Condition.field field test).toValue row := by
  obtain ⟨pair, mem, operand, asked, denied⟩ := opposite
  rw [Condition.toValue, Condition.toValue, asked, denied]
  exact reading.satisfies_opposite named mem operand row

end

section

variable {field : String} {operator negated : Operator} {condition : Condition}
  (opposite : operator.opposite? = some negated)

include opposite

/-- The opposite of a filter on texts makes the opposite test. -/
theorem stringCondition_opposite {text : String} (plain : ¬Identifies field .string operator)
    (made : stringCondition field text operator = .ok (some condition)) :
    ∃ test other, condition = .field field test ∧
      stringCondition field text negated = .ok (some (.field field other)) ∧
      other.IsOppositeOf test := by
  cases operator with
  | equal =>
    have other : field ∉ identifierFields := fun identifies => plain ⟨rfl, rfl, identifies⟩
    rw [stringCondition, if_neg (by simpa using other)] at made
    cases made
    cases opposite
    exact ⟨_, _, rfl, rfl, notMatching_isOppositeOf _⟩
  | has | anyOf =>
    cases made
    cases opposite
    exact ⟨_, _, rfl, rfl, notMatching_isOppositeOf _⟩
  | notEqual | hasNot | noneOf | range | less | greater | before | after => cases opposite

/-- The opposite of a filter on arrays makes the opposite test. -/
theorem arrayCondition_opposite {text : String}
    (made : arrayCondition field text operator = .ok (some condition)) :
    ∃ test other, condition = .field field test ∧
      arrayCondition field text negated = .ok (some (.field field other)) ∧
      other.IsOppositeOf test := by
  cases operator with
  | equal =>
    cases made
    cases opposite
    exact ⟨_, _, rfl, rfl, differs_isOppositeOf _⟩
  | anyOf =>
    obtain ⟨keys, read, same⟩ := map_eq_ok made
    cases same
    cases opposite
    exact ⟨_, _, rfl, by rw [arrayCondition, read]; rfl, notAmong_isOppositeOf keys⟩
  | has => cases made
  | notEqual | hasNot | noneOf | range | less | greater | before | after => cases opposite

/-- The opposite of a filter on numbers makes the opposite test. -/
theorem amountCondition?_opposite {text : String}
    (made : amountCondition? field operator (.single text) = some condition) :
    ∃ test other, condition = .field field test ∧
      amountCondition? field negated (.single text) = some (.field field other) ∧
      other.IsOppositeOf test := by
  obtain ⟨x, read, tested⟩ := Option.bind_eq_some_iff.mp made
  obtain ⟨test, chosen, same⟩ := Option.bind_eq_some_iff.mp tested
  cases same
  cases operator with
  | equal =>
    cases chosen
    cases opposite
    exact ⟨_, _, rfl, by rw [amountCondition?, read]; rfl, differs_isOppositeOf _⟩
  | has | anyOf => cases chosen
  | notEqual | hasNot | noneOf | range | less | greater | before | after => cases opposite

/-- Neither of two opposite operators takes a range. -/
theorem unranged_of_opposite : operator ≠ .range ∧ negated ≠ .range := by
  cases operator with
  | equal | has | anyOf =>
    cases opposite
    exact ⟨by decide, by decide⟩
  | notEqual | hasNot | noneOf | range | less | greater | before | after => cases opposite

variable {type : FilterType} {operand : Operand}

/-- The opposite of a complete filter makes the opposite test. -/
theorem conditionOf_opposite (plain : ¬Identifies field type operator)
    (supported : type.supports negated = true) (fits : operand.fits operator = true)
    (made : conditionOf field type operator operand = .ok (some condition)) :
    ∃ test other, condition = .field field test ∧
      conditionOf field type negated operand = .ok (some (.field field other)) ∧
      other.IsOppositeOf test := by
  cases operand with
  | between low high =>
    exact absurd (Operand.between_fits_iff.mp fits) (unranged_of_opposite opposite).1
  | single text =>
    cases type with
    | string => exact stringCondition_opposite opposite plain made
    | array => exact arrayCondition_opposite opposite made
    | amount =>
      obtain ⟨test, other, rfl, denied, opposed⟩ :=
        amountCondition?_opposite opposite (Except.ok.inj made)
      exact ⟨test, other, rfl, congrArg Except.ok denied, opposed⟩
    | date =>
      -- No operator on days has an opposite on days.
      cases operator <;> cases opposite <;> cases supported

/-- The opposite of a filter that looks for an identifier rules out the whole text. -/
theorem conditionOf_opposite_of_identifies (identifies : Identifies field type operator)
    (fits : operand.fits operator = true) :
    conditionOf field type negated operand =
      .ok (some (.field field (.notMatching (wholeText operand.low)))) := by
  obtain ⟨rfl, rfl, -⟩ := identifies
  cases opposite
  cases operand with
  | single text => rfl
  | between low high => cases fits

/-- The opposite of a complete filter is complete. -/
theorem Filter.IsComplete.negate {share : Option String}
    (supported : type.supports negated = true)
    (complete : IsComplete ⟨some field, some type, some operator, some operand, share⟩ field type
      operator operand) :
    IsComplete ⟨some field, some type, some negated, some operand, share⟩ field type negated
      operand := by
  obtain ⟨unranged, other⟩ := unranged_of_opposite opposite
  have shaped : operand.isBetween = true ↔ negated = .range :=
    complete.shaped.trans (iff_of_false unranged other)
  exact ⟨⟨rfl, rfl, rfl, rfl⟩, complete.named, supported, shaped, complete.low, complete.high⟩

end

/-- Opposite filters part rows. Where a filter has a condition and its type has the opposite
operator, the opposite filter has a condition as well. Unless an identifier is looked for, both ask
for the same operand of the field by opposite operators, so each row passes exactly one of the two;
names that belong to operators are no fields, and an engine need not read them so. Where an
identifier is looked for, it is asked for in all its forms, while the opposite filter rules out the
whole text in the field. -/
theorem opposite_filters_part_rows {field : String} {type : FilterType}
    {operator negated : Operator} {operand : Operand} {share : Option String}
    {condition : Condition}
    (made : Filter.condition ⟨some field, some type, some operator, some operand, share⟩ =
      .ok (some condition))
    (opposite : operator.opposite? = some negated) (supported : type.supports negated = true) :
    ∃ other,
      Filter.condition ⟨some field, some type, some negated, some operand, share⟩ =
        .ok (some other) ∧
      (¬Identifies field type operator →
        (∃ pair ∈ opposites, ∃ value,
          (Stage.select condition).members = [("$match", single field (single pair.1 value))] ∧
          (Stage.select other).members = [("$match", single field (single pair.2 value))]) ∧
        (IsFieldName field → ∀ (Row : Type) (reading : QueryReading Row) (row : Row),
          reading.satisfies other.toValue row = !reading.satisfies condition.toValue row)) ∧
      (Identifies field type operator →
        (∃ identifier, Identifier.ofText operand.low = .ok identifier ∧
          condition = .identified identifier) ∧
        (Stage.select other).members =
          [("$match", single field (single "$not" (.regex (wholeText operand.low))))]) := by
  have complete := Filter.isComplete_of_condition made
  have fits := Operand.fits_iff.mpr complete.shaped
  have denied := (complete.negate opposite supported).condition_eq
  rw [complete.condition_eq] at made
  rw [denied]
  by_cases identifies : Identifies field type operator
  · refine ⟨_, conditionOf_opposite_of_identifies opposite identifies fits,
      fun plain => absurd identifies plain, fun _ => ⟨?_, rfl⟩⟩
    exact identified_of_conditionOf identifies made
  · obtain ⟨test, other, rfl, denied, opposed⟩ :=
      conditionOf_opposite opposite identifies supported fits made
    refine ⟨_, denied, fun _ => ⟨?_, ?_⟩, fun identified => absurd identified identifies⟩
    · obtain ⟨pair, mem, value, asked, ruled⟩ := opposed
      refine ⟨pair, mem, value, ?_, ?_⟩
      · rw [Stage.members, Condition.toValue, asked, single]
        rfl
      · rw [Stage.members, Condition.toValue, ruled]
        rfl
    · intro named Row reading row
      exact opposed.satisfies reading named row

/-- A filter for titles that have a word, by either operator. -/
def redTitles (operator : Operator) : Filter :=
  ⟨some "title", some .string, some operator, some (.single "red"), none⟩

/-- Each row passes exactly one of the filters for titles with the word and without it. -/
theorem red_titles_parted :
    (redTitles .has).condition = .ok (some (.field "title" (.matching (partOfText "red")))) ∧
      Operator.has.opposite? = some .hasNot ∧ FilterType.string.supports .hasNot = true ∧
      ∃ other, (redTitles .hasNot).condition = .ok (some other) ∧
        ∀ (Row : Type) (reading : QueryReading Row) (row : Row),
          reading.satisfies other.toValue row =
            !reading.satisfies
              (Condition.field "title" (.matching (partOfText "red"))).toValue row := by
  have made : (redTitles .has).condition =
      .ok (some (.field "title" (.matching (partOfText "red")))) := rfl
  have plain : ¬Identifies "title" .string .has := fun identifies => by cases identifies.2.1
  have named : IsFieldName "title" := by
    rw [IsFieldName]
    decide
  obtain ⟨other, denied, parted, -⟩ := opposite_filters_part_rows made rfl rfl
  exact ⟨made, rfl, rfl, other, denied, (parted plain).2 named⟩

/-- A filter for the identifier of five, by either operator. -/
def fifth (operator : Operator) : Filter :=
  ⟨some "id", some .string, some operator, some (.single "5"), none⟩

/-- The identifier is not asked for by the operator whose opposite rules the text out. -/
theorem identifier_not_parted :
    ∃ positive other, (fifth .equal).condition = .ok (some positive) ∧
      (fifth .notEqual).condition = .ok (some other) ∧
      ¬∃ pair ∈ opposites, ∃ value,
        (Stage.select positive).members = [("$match", single "id" (single pair.1 value))] ∧
        (Stage.select other).members = [("$match", single "id" (single pair.2 value))] := by
  have read : Identifier.ofText "5" = .ok ⟨"5", some (.int 5), .text "5"⟩ :=
    eq_ok_of_toOption (by decide +kernel)
  have made : (fifth .equal).condition =
      .ok (some (.identified ⟨"5", some (.int 5), .text "5"⟩)) := by
    have looked : (fifth .equal).condition =
        (Identifier.ofText "5").map fun identifier => some (.identified identifier) := rfl
    rw [looked, read]
    rfl
  refine ⟨_, _, made, rfl, ?_⟩
  rintro ⟨pair, -, value, asked, -⟩
  simp [Stage.members, Condition.toValue, single] at asked

end QueryPipeline
