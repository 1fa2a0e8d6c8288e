import QueryPipeline.Document.Value
import QueryPipeline.Number.Numeral

/-!
# Identifiers of documents

A document is found by an identifier in any of the forms it can be stored in: as a text, as the
number the text denotes, or as a key.
-/

namespace QueryPipeline.Document

open Number

/-- The key that a text stands for: 24 hexadecimal digits are an object identifier. The same digits
with a line break at the end pass for one and are none, which fails. -/
def Key.ofText (text : String) : Except Failure Key :=
  match ObjectId.ofText? text.toList with
  | some id => .ok (.objectId id)
  | none =>
    if text.toList.getLast? = some '\n' ∧ (ObjectId.ofText? text.toList.dropLast).isSome then
      .error (.notAnObjectId text)
    else .ok (.text text)

/-- The keys that the texts between commas stand for. -/
def Key.listOfText (text : String) : Except Failure (List Key) :=
  (Text.splitOn ',' text.toList).mapM fun item => Key.ofText (String.ofList item)

/-- A number as a value. -/
def numeralValue : Numeral → Value
  | .int n => .int n
  | .float x => .float x

/-- The forms of an identifier. -/
structure Identifier where
  /-- The text itself. -/
  text : String
  /-- The number that the text denotes. -/
  number : Option Numeral
  /-- The key that the text stands for. -/
  key : Key
  deriving DecidableEq, Repr

/-- The forms of an identifier that is given as a text. -/
def Identifier.ofText (text : String) : Except Failure Identifier := do
  let number ← readNumeral text
  let key ← Key.ofText text
  .ok ⟨text, number, key⟩

/-- An identifier as a caller gives it. -/
inductive GivenId
  /-- As a text. -/
  | text (value : String)
  /-- As a whole number. -/
  | int (value : Int)
  deriving DecidableEq, Repr

/-- The text of a given identifier. -/
def GivenId.toText : GivenId → Except Failure String
  | text value => .ok value
  | int n => if isWritable n then .ok (decimalString n) else .error .unwritableInteger

/-- The forms of a given identifier. -/
def Identifier.ofGiven (given : GivenId) : Except Failure Identifier :=
  given.toText.bind Identifier.ofText

end QueryPipeline.Document
