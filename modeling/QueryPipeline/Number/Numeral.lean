import QueryPipeline.Failure
import QueryPipeline.Number.Decimal

/-!
# Numerals of either kind

A text that consists of digits, with a minus sign or without, denotes a whole number and is never
rounded. Any other text may denote a finite decimal fraction.
-/

namespace QueryPipeline.Number

open Text

/-- A number read from a text. -/
inductive Numeral
  /-- A whole number. -/
  | int (value : Int)
  /-- A decimal fraction. -/
  | float (value : Binary64)
  deriving DecidableEq, Repr

/-- Whether a text consists of digits, with a minus sign or without. -/
def isWhole (text : List Char) : Bool :=
  let digits := if text.head? = some '-' then text.tail else text
  !digits.isEmpty && digits.all isDecimalDigit

/-- The number that a text denotes, if it denotes one. A whole number that cannot be read fails; the
separators that trimming removes beyond the blanks of a numeral make it so. -/
def readNumeral (text : String) : Except Failure (Option Numeral) :=
  if isWhole (trim text.toList) then
    match readInteger text.toList with
    | .ok n => .ok (some (.int n))
    | .error fault => .error (.ofInteger text fault)
  else
    .ok (((readDecimal? text.toList).filter Binary64.isFinite).map .float)

end QueryPipeline.Number
