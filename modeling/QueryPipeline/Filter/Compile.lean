import QueryPipeline.Filter.Basic
import QueryPipeline.Pipeline.Stage
import QueryPipeline.Time.Iso

/-!
# Compiling filters

A complete filter whose type has its operator and whose operand can be converted becomes one
condition; any other filter becomes none. Only a day beyond the calendar and an identifier that
cannot be read fail.

The operand of a text comparison is used as a regular expression as it stands. Days are compared by
their bounds in universal time, so every moment of a day equals it and none is before or after it.
-/

namespace QueryPipeline

open Document Number Pipeline Text Time

/-- The fields that hold identifiers. -/
def identifierFields : List String := ["id", "_id"]

/-- The regular expression for a whole text. -/
def wholeText (text : String) : Regex := .ignoringCase ('^' :: text.toList ++ ['$'])

/-- The regular expression for a whole text that is one of those between commas. -/
def oneOfTexts (text : String) : Regex :=
  .ignoringCase ('^' :: '(' :: joinWith '|' (splitOn ',' text.toList) ++ [')', '$'])

/-- The regular expression for a part of a text. -/
def partOfText (text : String) : Regex := .ignoringCase text.toList

/-- The point in universal time that a text denotes, if it denotes one. -/
def readDay (text : String) : Except Failure (Option Timestamp) :=
  match Timestamp.readUtc text.toList with
  | .ok t => .ok (some t)
  | .error .malformed => .ok none
  | .error fault => .error (.ofDate fault)

/-- The condition of a filter on texts. -/
def stringCondition (field : String) (text : String) :
    Operator → Except Failure (Option Condition)
  | .equal =>
    if identifierFields.contains field then
      (Identifier.ofText text).map fun identifier => some (.identified identifier)
    else .ok (some (.field field (.matching (wholeText text))))
  | .notEqual => .ok (some (.field field (.notMatching (wholeText text))))
  | .has => .ok (some (.field field (.matching (partOfText text))))
  | .hasNot => .ok (some (.field field (.notMatching (partOfText text))))
  | .anyOf => .ok (some (.field field (.matching (oneOfTexts text))))
  | .noneOf => .ok (some (.field field (.notMatching (oneOfTexts text))))
  | _ => .ok none

/-- The test of a filter on numbers. -/
def amountTest? (x : Binary64) : Operator → Option Test
  | .equal => some (.equals (.float x))
  | .notEqual => some (.differs (.float x))
  | .less => some (.below (.float x))
  | .greater => some (.above (.float x))
  | _ => none

/-- The condition of a filter on numbers. -/
def amountCondition? (field : String) (operator : Operator) : Operand → Option Condition
  | .single text => do
    let x ← readDecimal? text.toList
    let test ← amountTest? x operator
    some (.field field test)
  | .between low high => do
    let x ← readDecimal? low.toList
    let y ← readDecimal? high.toList
    some (.between field (.float x) (.float y))

/-- The condition that a moment lies on the days from one to another. -/
def daysCondition (field : String) (first last : Timestamp) : Condition :=
  .between field (.date first.startOfDay) (.date last.endOfDay)

/-- The condition of a filter on one day. -/
def dayCondition? (field : String) (day : Timestamp) : Operator → Option Condition
  | .equal => some (daysCondition field day day)
  | .before => some (.field field (.below (.date day.startOfDay)))
  | .after => some (.field field (.above (.date day.endOfDay)))
  | _ => none

/-- The condition of a filter on days. The first day of a range is read before the last. -/
def dateCondition (field : String) (operator : Operator) :
    Operand → Except Failure (Option Condition)
  | .single text => (readDay text).map fun day? =>
    day?.bind fun day => dayCondition? field day operator
  | .between low high => do
    match ← readDay low with
    | none => .ok none
    | some first =>
      (readDay high).map fun last? => last?.map fun last => daysCondition field first last

/-- The condition of a filter on arrays. -/
def arrayCondition (field : String) (text : String) :
    Operator → Except Failure (Option Condition)
  | .equal => .ok (some (.field field (.equals (.text text))))
  | .notEqual => .ok (some (.field field (.differs (.text text))))
  | .anyOf => (Key.listOfText text).map fun keys => some (.field field (.among keys))
  | .noneOf => (Key.listOfText text).map fun keys => some (.field field (.notAmong keys))
  | _ => .ok none

/-- The condition of a complete filter with a supported operator. -/
def conditionOf (field : String) (type : FilterType) (operator : Operator) (operand : Operand) :
    Except Failure (Option Condition) :=
  match type, operand with
  | .string, .single text => stringCondition field text operator
  | .array, .single text => arrayCondition field text operator
  | .amount, operand => .ok (amountCondition? field operator operand)
  | .date, operand => dateCondition field operator operand
  | _, .between _ _ => .ok none

/-- Whether an operand has the shape that an operator takes. -/
def Operand.fits : Operand → Operator → Bool
  | .between _ _, operator => operator == .range
  | .single _, operator => operator != .range

/-- The condition of a filter, if it has one. -/
def Filter.condition (filter : Filter) : Except Failure (Option Condition) :=
  match filter.field, filter.type, filter.operator, filter.operand with
  | some field, some type, some operator, some operand =>
    if field ≠ "" ∧ type.supports operator ∧ operand.fits operator then
      conditionOf field type operator operand
    else .ok none
  | _, _, _, _ => .ok none

/-- The stages of a list of filters, in order. -/
def compile : List Filter → Except Failure (List Stage)
  | [] => .ok []
  | filter :: rest => do
    let condition? ← filter.condition
    let stages ← compile rest
    .ok ((condition?.map Stage.select).toList ++ stages)

end QueryPipeline
