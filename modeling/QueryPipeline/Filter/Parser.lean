import QueryPipeline.Filter.Basic
import QueryPipeline.Text.Split
import QueryPipeline.Time.Iso

/-!
# Reading filters

The full form of a filter is `field|type|operator|value`, with a share as an optional fifth token.
The short form `field|value` leaves type and operator to be told from the field and the value. A
malformed text leaves parts of the filter missing and never fails.
-/

namespace QueryPipeline

open Text Time

/-- The token that separates the parts of a filter. -/
def filterSeparator : Char := '|'

/-- The fields whose values are never taken for numbers. -/
def textFields : List String := ["name", "id", "cancellationType"]

/-- The fields whose values are compared as a whole. -/
def wholeFields : List String := ["id", "_id"]

/-- Whether a text consists of digits and points; a final line break does not count. -/
def isAmountShaped (text : List Char) : Bool :=
  let body := if text.getLast? = some '\n' then text.dropLast else text
  !body.isEmpty && body.all fun c => isDecimalDigit c || c == '.'

/-- The type that the value of a short form has without a comma. -/
def impliedType (field : String) (value : List Char) : FilterType :=
  if isDaysShaped value then .date
  else if isAmountShaped value && !textFields.contains field then .amount
  else .string

/-- The operator that the value of a short form has without a comma. -/
def impliedOperator (field : String) (value : List Char) : Operator :=
  if value.contains '~' then .range
  else if wholeFields.contains field then .equal
  else .has

/-- The type and the operator of a short form; a comma makes the value a list. -/
def implied (field : String) (value : List Char) : FilterType × Operator :=
  if value.contains ',' then (.array, .anyOf)
  else (impliedType field value, impliedOperator field value)

/-- The operand of an operator; a range is cut at its first tilde. -/
def readOperand (operator : Option Operator) (value : List Char) : Operand :=
  match operator, cut? '~' value with
  | some .range, some (low, high) => .between (String.ofList low) (String.ofList high)
  | _, _ => .single (String.ofList value)

/-- A text unless it is empty. -/
def nonEmpty? (text : List Char) : Option String :=
  if text.isEmpty then none else some (String.ofList text)

/-- The filter of a short form. -/
def shortFilter (field value : List Char) : Filter :=
  let (type, operator) := implied (String.ofList field) value
  ⟨nonEmpty? field, some type, some operator, some (readOperand (some operator) value), none⟩

/-- The filter of a full form. -/
def fullFilter (field type operator value : List Char) (share : Option String) : Filter :=
  let operator := Operator.ofToken? (String.ofList operator)
  ⟨nonEmpty? field, FilterType.ofToken? (String.ofList type), operator,
    some (readOperand operator value), share⟩

/-- The filter that the tokens of a text make. -/
def Filter.ofTokens : List (List Char) → Filter
  | [field, value] => shortFilter field value
  | [field, first, second] => shortFilter field (if second.isEmpty then first else second)
  | [field, type, operator, value] => fullFilter field type operator value none
  | field :: type :: operator :: value :: share :: _ =>
    fullFilter field type operator value (nonEmpty? share)
  | [field] => ⟨nonEmpty? field, none, none, none, none⟩
  | [] => ⟨none, none, none, none, none⟩

/-- The filter that a text denotes. -/
def Filter.read (text : String) : Filter :=
  Filter.ofTokens (splitOn filterSeparator text.toList)

end QueryPipeline
