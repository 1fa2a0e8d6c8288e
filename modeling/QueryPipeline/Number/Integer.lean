import QueryPipeline.Text.Blank
import QueryPipeline.Text.DecimalDigit
import QueryPipeline.Text.Split

/-!
# Whole numbers in texts

A whole number is read from a sign, digits of any script and single underscores between digits,
with blanks around it. Neither reading nor writing goes beyond 4300 digits.
-/

namespace QueryPipeline.Number

open Text

/-- The most digits a whole number may have when it is read or written. -/
def maxDigits : Nat := 4300

/-- Why a text is no whole number. -/
inductive IntegerFault
  /-- The numeral has more digits than are read. -/
  | tooLong (digits : Nat)
  /-- The text is no numeral. -/
  | malformed
  deriving DecidableEq, Repr

/-- Whether a text starts with a minus sign, and what follows its sign. -/
def takeSign : List Char → Bool × List Char
  | '-' :: rest => (true, rest)
  | '+' :: rest => (false, rest)
  | text => (false, text)

/-- A magnitude with its sign. -/
def signed (negative : Bool) (magnitude : Nat) : Int := if negative then -magnitude else magnitude

/-- A digit of any script, or an underscore. -/
def isNumeralChar (c : Char) : Bool := isDecimalDigit c || c = '_'

/-- The whole number a text denotes. Misplaced underscores count before the number of digits, and
that before anything that follows the numeral. -/
def readInteger (text : List Char) : Except IntegerFault Int :=
  let (negative, body) := takeSign (text.dropWhile isNumeralBlank)
  let groups := splitOn '_' (body.takeWhile isNumeralChar)
  let digits := groups.flatten.filterMap digitValue?
  if groups.any List.isEmpty then .error .malformed
  else if maxDigits < digits.length then .error (.tooLong digits.length)
  else if (body.dropWhile isNumeralChar).all isNumeralBlank then
    .ok (signed negative (ofDigits digits))
  else .error .malformed

/-- The decimal text of a whole number. -/
def decimal (n : Int) : List Char :=
  if n < 0 then '-' :: Nat.toDigits 10 n.natAbs else Nat.toDigits 10 n.natAbs

/-- The decimal text of a whole number, as a string. -/
def decimalString (n : Int) : String := String.ofList (decimal n)

/-- Whether a whole number has few enough digits to be written. -/
def isWritable (n : Int) : Bool := n.natAbs < Nat.pow 10 maxDigits

end QueryPipeline.Number
