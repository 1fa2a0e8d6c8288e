import QueryPipeline.Document.ObjectId
import QueryPipeline.Number.Binary64
import QueryPipeline.Number.Integer
import QueryPipeline.Time.Timestamp

/-!
# Documents

A document is a tree of objects and arrays over the scalars that a collection stores. The members of
an object are kept in order.
-/

namespace QueryPipeline.Document

open Number Time

/-- A stored regular expression. -/
structure Regex where
  /-- The expression. -/
  pattern : String
  /-- The flags as a bit set. -/
  flags : Nat
  deriving DecidableEq, Repr

/-- The regular expression that ignores case. -/
def Regex.ignoringCase (pattern : List Char) : Regex := ⟨String.ofList pattern, 2⟩

/-- A value in a document. -/
inductive Value
  /-- No value. -/
  | null
  /-- A truth value. -/
  | bool (value : Bool)
  /-- A whole number. -/
  | int (value : Int)
  /-- A binary floating point number. -/
  | float (value : Binary64)
  /-- A text. -/
  | text (value : String)
  /-- An object identifier. -/
  | objectId (value : ObjectId)
  /-- A point in time. -/
  | date (value : Timestamp)
  /-- A regular expression. -/
  | regex (value : Regex)
  /-- An array. -/
  | array (items : List Value)
  /-- An object. -/
  | object (members : List (String × Value))
  deriving Inhabited

/-- The members of an object. -/
abbrev Members := List (String × Value)

/-- Whether a key is present. -/
def Members.has (members : Members) (key : String) : Bool := members.any (·.1 == key)

/-- A key as a value. -/
def Key.toValue : Key → Value
  | objectId id => .objectId id
  | text value => .text value

mutual

/-- Whether every whole number in a value can be written. -/
def Value.isWritable : Value → Bool
  | .int n => Number.isWritable n
  | .array items => allWritable items
  | .object members => membersWritable members
  | _ => true

/-- Whether every whole number in a list of values can be written. -/
def allWritable : List Value → Bool
  | [] => true
  | value :: rest => value.isWritable && allWritable rest

/-- Whether every whole number in the members of an object can be written. -/
def membersWritable : List (String × Value) → Bool
  | [] => true
  | (_, value) :: rest => value.isWritable && membersWritable rest

end

end QueryPipeline.Document
