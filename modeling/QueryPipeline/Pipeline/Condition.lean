import QueryPipeline.Document.Identifier

/-!
# Conditions on documents

A condition says which documents a pipeline goes on with. It is kept by its meaning and turned into
a query document in one place.
-/

namespace QueryPipeline.Pipeline

open Document

/-- What is asked of the value of one field. -/
inductive Test
  /-- It equals the operand. -/
  | equals (operand : Value)
  /-- It does not equal the operand. -/
  | differs (operand : Value)
  /-- It matches the expression. -/
  | matching (expression : Regex)
  /-- It does not match the expression. -/
  | notMatching (expression : Regex)
  /-- It is one of the keys. -/
  | among (keys : List Key)
  /-- It is none of the keys. -/
  | notAmong (keys : List Key)
  /-- It is below the operand. -/
  | below (operand : Value)
  /-- It is above the operand. -/
  | above (operand : Value)

/-- The operator and the operand of a test. -/
def Test.member : Test → String × Value
  | equals operand => ("$eq", operand)
  | differs operand => ("$ne", operand)
  | matching expression => ("$regex", .regex expression)
  | notMatching expression => ("$not", .regex expression)
  | among keys => ("$in", .array (keys.map Key.toValue))
  | notAmong keys => ("$nin", .array (keys.map Key.toValue))
  | below operand => ("$lt", operand)
  | above operand => ("$gt", operand)

/-- What is asked of a document. -/
inductive Condition
  /-- One field passes a test. -/
  | field (name : String) (test : Test)
  /-- One field lies between two operands, both included. -/
  | between (name : String) (low high : Value)
  /-- The document is stored under one of the forms of an identifier. -/
  | identified (identifier : Identifier)
  /-- One field is a value, which the engine interprets. -/
  | literal (name : String) (value : Value)
  /-- Nothing can hold. -/
  | never

/-- An object with one member. -/
def single (key : String) (value : Value) : Value := .object [(key, value)]

/-- The clauses of which a document stored under an identifier satisfies one. -/
def identifierClauses (identifier : Identifier) : List Value :=
  single "id" (.text identifier.text) ::
    (identifier.number.map fun number => single "id" (numeralValue number)).toList ++
    [single "_id" identifier.key.toValue]

/-- The query document of a condition. -/
def Condition.toValue : Condition → Value
  | field name test => single name (.object [test.member])
  | between name low high =>
    single "$and" (.array [single name (single "$gte" low), single name (single "$lte" high)])
  | identified identifier => single "$or" (.array (identifierClauses identifier))
  | literal name value => single name value
  | never => single "$expr" (.bool false)

end QueryPipeline.Pipeline
