/-!
# Filters

A filter names a field, the type its values are compared as, an operator and an operand. Any of
these can be missing where the text of a filter was malformed. A filter may also ask for a share of
the documents that pass it.
-/

namespace QueryPipeline

/-- The type that values are compared as. -/
inductive FilterType
  /-- Texts, compared by regular expressions. -/
  | string
  /-- Days. -/
  | date
  /-- Numbers. -/
  | amount
  /-- Arrays. -/
  | array
  deriving DecidableEq, Repr

/-- The comparison of a filter. -/
inductive Operator
  /-- Equal to the operand. -/
  | equal
  /-- Not equal to the operand. -/
  | notEqual
  /-- Has the operand. -/
  | has
  /-- Does not have the operand. -/
  | hasNot
  /-- Any of the operands. -/
  | anyOf
  /-- None of the operands. -/
  | noneOf
  /-- Between two operands. -/
  | range
  /-- Less than the operand. -/
  | less
  /-- Greater than the operand. -/
  | greater
  /-- Before the operand. -/
  | before
  /-- After the operand. -/
  | after
  deriving DecidableEq, Repr

/-- All types. -/
def FilterType.all : List FilterType := [.string, .date, .amount, .array]

/-- The token of a type. -/
def FilterType.token : FilterType → String
  | string => "string"
  | date => "date"
  | amount => "amount"
  | array => "array"

/-- The type with a token. -/
def FilterType.ofToken? (token : String) : Option FilterType :=
  FilterType.all.find? (·.token == token)

/-- All operators. -/
def Operator.all : List Operator :=
  [.equal, .notEqual, .has, .hasNot, .anyOf, .noneOf, .range, .less, .greater, .before, .after]

/-- The token of an operator. -/
def Operator.token : Operator → String
  | equal => "eq"
  | notEqual => "ne"
  | has => "has"
  | hasNot => "nh"
  | anyOf => "any"
  | noneOf => "none"
  | range => "range"
  | less => "lt"
  | greater => "gt"
  | before => "before"
  | after => "after"

/-- The operator with a token. -/
def Operator.ofToken? (token : String) : Option Operator :=
  Operator.all.find? (·.token == token)

/-- The operators of a type. -/
def FilterType.operators : FilterType → List Operator
  | string => [.equal, .notEqual, .has, .hasNot, .anyOf, .noneOf]
  | date => [.equal, .range, .before, .after]
  | amount => [.equal, .notEqual, .range, .less, .greater]
  | array => [.equal, .notEqual, .anyOf, .noneOf]

/-- Whether a type has an operator. -/
def FilterType.supports (type : FilterType) (operator : Operator) : Bool :=
  type.operators.contains operator

/-- Whether a type and an operator are both known and go together. -/
def isSupported : Option FilterType → Option Operator → Bool
  | some type, some operator => type.supports operator
  | _, _ => false

/-- What a field is compared with. -/
inductive Operand
  /-- One text. -/
  | single (text : String)
  /-- The two ends of a range. -/
  | between (low high : String)
  deriving DecidableEq, Repr

/-- A filter. -/
structure Filter where
  /-- The field. -/
  field : Option String
  /-- The type of the comparison. -/
  type : Option FilterType
  /-- The comparison. -/
  operator : Option Operator
  /-- What the field is compared with. -/
  operand : Option Operand
  /-- The percentage of the documents to go on with, still as a text. -/
  share : Option String
  deriving DecidableEq, Repr

/-- A type is found by its token. -/
theorem FilterType.ofToken?_token (type : FilterType) : ofToken? type.token = some type := by
  cases type <;> rfl

/-- An operator is found by its token. -/
theorem Operator.ofToken?_token (operator : Operator) :
    ofToken? operator.token = some operator := by
  cases operator <;> rfl

end QueryPipeline
