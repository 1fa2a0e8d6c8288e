import QueryPipeline.Number.Binary64
import QueryPipeline.Number.Integer

/-!
# Decimal fractions in texts

A decimal fraction has a sign, digits of any script around an optional point, and an optional
exponent; underscores may stand between two digits. The words for infinity and for no number are
read in any case. The value is rounded once to the nearest number of the binary format.
-/

namespace QueryPipeline.Number

open Text

/-- A magnitude beyond this power of ten rounds to infinity, one below its inverse to zero. -/
def exponentReach : Int := 400

/-- The number nearest to `significand * 10 ^ exponent`. Powers beyond the reach of the format are
not computed. -/
def ofScientific (negative : Bool) (digits : List Nat) (exponent : Int) : Binary64 :=
  let significant := digits.dropWhile (· == 0)
  let magnitude := exponent + significant.length
  if significant.isEmpty then .finite negative 0
  else if exponentReach < magnitude then .infinite negative
  else if magnitude < -exponentReach then .finite negative 0
  else if 0 ≤ exponent then
    Binary64.ofRatio negative (ofDigits significant * Nat.pow 10 exponent.toNat) 1
  else Binary64.ofRatio negative (ofDigits significant) (Nat.pow 10 (-exponent).toNat)

/-- The text without underscores, if each of them stands between two digits. -/
def withoutUnderscores? (text : List Char) : Option (List Char) :=
  let pieces := splitOn '_' text
  let opens (piece : List Char) : Bool := (piece.head?.map isDecimalDigit).getD false
  let closes (piece : List Char) : Bool := (piece.getLast?.map isDecimalDigit).getD false
  if pieces.dropLast.all closes && pieces.tail.all opens then some pieces.flatten else none

/-- The exponent after its mark: a sign and at least one digit up to the end. -/
def readExponent? (text : List Char) : Option Int :=
  let (negative, digits) := takeSign text
  if digits.isEmpty || !digits.all isDecimalDigit then none
  else some (signed negative (ofDigits (digits.filterMap digitValue?)))

/-- The unsigned number that a text denotes without a word. -/
def readUnsigned? (negative : Bool) (text : List Char) : Option Binary64 :=
  let whole := text.takeWhile isDecimalDigit
  let pointed := text.dropWhile isDecimalDigit
  let (fraction, tail) :=
    match pointed with
    | '.' :: rest => (rest.takeWhile isDecimalDigit, rest.dropWhile isDecimalDigit)
    | _ => ([], pointed)
  let exponent? :=
    match tail with
    | [] => some 0
    | 'e' :: rest => readExponent? rest
    | 'E' :: rest => readExponent? rest
    | _ => none
  if whole.isEmpty && fraction.isEmpty then none
  else exponent?.map fun exponent =>
    ofScientific negative ((whole ++ fraction).filterMap digitValue?) (exponent - fraction.length)

/-- The words for infinity. -/
def infinityWords : List (List Char) :=
  [['i', 'n', 'f'], ['i', 'n', 'f', 'i', 'n', 'i', 't', 'y']]

/-- The word for no number. -/
def nanWord : List Char := ['n', 'a', 'n']

/-- The number a text denotes, if it denotes one. -/
def readDecimal? (text : List Char) : Option Binary64 :=
  (withoutUnderscores? (trimBy isNumeralBlank text)).bind fun plain =>
    let (negative, unsigned) := takeSign plain
    let word := unsigned.map Char.toLower
    if infinityWords.contains word then some (.infinite negative)
    else if word = nanWord then some .nan
    else readUnsigned? negative unsigned

end QueryPipeline.Number
