import QueryPipeline.Text.Hex

/-!
# Object identifiers

An object identifier is a number of 24 hexadecimal digits, read in either case and written in lower
case. A key is what a document can be stored under: an object identifier, or any other text.
-/

namespace QueryPipeline.Document

open Text

/-- An object identifier. -/
structure ObjectId where
  /-- The number that the digits denote. -/
  number : Fin (Nat.pow 16 24)
  deriving DecidableEq, Repr

namespace ObjectId

/-- The number that hexadecimal digits denote, most significant digit first. -/
def ofHexDigits (digits : List Nat) : Nat := digits.foldl (fun n digit => 16 * n + digit) 0

/-- The identifier that exactly 24 hexadecimal digits denote. -/
def ofText? (text : List Char) : Option ObjectId :=
  if text.length = 24 ∧ text.all isHexDigit then
    some ⟨Fin.ofNat _ (ofHexDigits (text.filterMap hexValue?))⟩
  else none

/-- The 24 digits of an identifier. -/
def text (id : ObjectId) : List Char := hexOfWidth 24 id.number

end ObjectId

/-- What a document can be stored under. -/
inductive Key
  /-- An object identifier. -/
  | objectId (id : ObjectId)
  /-- Any other text. -/
  | text (text : String)
  deriving DecidableEq, Repr

end QueryPipeline.Document
