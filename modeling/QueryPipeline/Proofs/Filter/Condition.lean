import QueryPipeline.Filter.Compile
import QueryPipeline.Proofs.Document.Encoding

/-!
# The conditions that filters have

A filter asks something of its own field, or it looks for an identifier. It never compares its field
with a value that the engine interprets, and it never lets nothing pass. So the stage of a filter
can be told from the stages that cut out a share by what is sent alone, whatever its field is called
and whatever its operand says. Numbers are compared as floating point numbers, so the only whole
number in a condition is that of an identifier.
-/

namespace QueryPipeline

open Document Number Pipeline

/-- The conditions that a filter on a field can have. -/
inductive Pipeline.Condition.IsOn (field : String) : Condition → Prop
  /-- The field passes a test for something without whole numbers. -/
  | field (test : Test) (plain : test.member.2.integers = []) : IsOn field (.field field test)
  /-- The field lies between two operands without whole numbers. -/
  | between (low high : Value) (plain : low.integers = [] ∧ high.integers = []) :
      IsOn field (.between field low high)
  /-- The field holds an identifier, which is looked for in all its forms. -/
  | identified (identifies : field ∈ identifierFields) (identifier : Identifier) :
      IsOn field (.identified identifier)

variable {field : String} {operator : Operator} {condition : Condition}

/-- A condition on a text is on the field. -/
theorem isOn_of_stringCondition {text : String}
    (made : stringCondition field text operator = .ok (some condition)) : condition.IsOn field := by
  cases operator with
  | equal =>
    rw [stringCondition] at made
    split at made
    · next identifies =>
      obtain ⟨identifier, -, same⟩ := map_eq_ok made
      cases same
      exact .identified (List.contains_iff_mem.mp identifies) identifier
    · cases made
      exact .field _ rfl
  | notEqual | has | hasNot | anyOf | noneOf =>
    cases made
    exact .field _ rfl
  | range | less | greater | before | after => cases made

/-- A condition on an array is on the field. -/
theorem isOn_of_arrayCondition {text : String}
    (made : arrayCondition field text operator = .ok (some condition)) : condition.IsOn field := by
  cases operator with
  | equal | notEqual =>
    cases made
    exact .field _ rfl
  | anyOf | noneOf =>
    obtain ⟨keys, -, same⟩ := map_eq_ok made
    cases same
    exact .field _ (itemIntegers_keys keys)
  | has | hasNot | range | less | greater | before | after => cases made

/-- A condition on a number is on the field. -/
theorem isOn_of_amountCondition? {operand : Operand}
    (made : amountCondition? field operator operand = some condition) : condition.IsOn field := by
  cases operand with
  | single text =>
    obtain ⟨x, -, tested⟩ := Option.bind_eq_some_iff.mp made
    obtain ⟨test, chosen, same⟩ := Option.bind_eq_some_iff.mp tested
    cases same
    cases operator with
    | equal | notEqual | less | greater =>
      cases chosen
      exact .field _ rfl
    | has | hasNot | anyOf | noneOf | range | before | after => cases chosen
  | between low high =>
    obtain ⟨x, -, other⟩ := Option.bind_eq_some_iff.mp made
    obtain ⟨y, -, same⟩ := Option.bind_eq_some_iff.mp other
    cases same
    exact .between _ _ ⟨rfl, rfl⟩

/-- A condition on one day is on the field. -/
theorem isOn_of_dayCondition? {day : Time.Timestamp}
    (made : dayCondition? field day operator = some condition) : condition.IsOn field := by
  cases operator with
  | equal =>
    cases made
    exact .between _ _ ⟨rfl, rfl⟩
  | before | after =>
    cases made
    exact .field _ rfl
  | notEqual | has | hasNot | anyOf | noneOf | range | less | greater => cases made

/-- A condition on days is on the field. -/
theorem isOn_of_dateCondition {operand : Operand}
    (made : dateCondition field operator operand = .ok (some condition)) :
    condition.IsOn field := by
  cases operand with
  | single text =>
    obtain ⟨day?, -, tested⟩ := map_eq_ok made
    obtain ⟨day, -, same⟩ := Option.bind_eq_some_iff.mp tested
    exact isOn_of_dayCondition? same
  | between low high =>
    obtain ⟨first?, -, others⟩ := bind_eq_ok made
    cases first? with
    | none => cases others
    | some first =>
      obtain ⟨last?, -, ranged⟩ := map_eq_ok others
      obtain ⟨last, -, rfl⟩ := Option.map_eq_some_iff.mp ranged
      exact .between _ _ ⟨rfl, rfl⟩

/-- The condition of a filter is on the field of the filter. -/
theorem Filter.isOn_of_condition {filter : Filter}
    (made : filter.condition = .ok (some condition)) :
    ∃ field, filter.field = some field ∧ condition.IsOn field := by
  rw [Filter.condition] at made
  split at made
  · next field type operator operand named _ _ _ =>
    refine ⟨field, named, ?_⟩
    split at made
    · cases type with
      | string =>
        cases operand with
        | single text => exact isOn_of_stringCondition made
        | between low high => cases made
      | array =>
        cases operand with
        | single text => exact isOn_of_arrayCondition made
        | between low high => cases made
      | amount => exact isOn_of_amountCondition? (Except.ok.inj made)
      | date => exact isOn_of_dateCondition made
    · cases made
  · cases made

/-- Two identifiers are asked for by the same query only if they have the same text. -/
theorem text_eq_of_toValue {first second : Identifier}
    (same : (Condition.identified first).toValue = (Condition.identified second).toValue) :
    first.text = second.text := by
  simp only [Condition.toValue, single, identifierClauses, List.cons_append, Value.object.injEq,
    List.cons.injEq, Prod.mk.injEq, Value.array.injEq, Value.text.injEq] at same
  exact same.1.2.1.1.2

/-- The test of a field is not asked for by the query for an identifier. -/
theorem field_toValue_ne (name : String) (test : Test) (identifier : Identifier) :
    (Condition.field name test).toValue ≠ (Condition.identified identifier).toValue := by
  simp [Condition.toValue, single]

/-- Whether the members of a stage say that nothing passes. -/
def letsNothingPass : Members → Bool
  | [(operator, .object [(name, .bool false)])] => operator == "$match" && name == "$expr"
  | _ => false

/-- Whether a stage, as it is sent, is one of those that cut out a share. -/
def Pipeline.Stage.isCut (stage : Stage) : Bool :=
  stage.members.has "$skip" || stage.members.has "$limit" || letsNothingPass stage.members

/-- A condition on a field does not cut, not even where the field is named like an operator. -/
theorem Pipeline.Condition.IsOn.isCut_select (on : condition.IsOn field) :
    (Stage.select condition).isCut = false := by
  cases on <;> rfl

end QueryPipeline
