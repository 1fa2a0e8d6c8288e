import QueryPipeline.Number.Integer
import QueryPipeline.Text.Quoted
import QueryPipeline.Time.Iso

/-!
# Failures

Every way in which an operation of the library can fail is a constructor of one type, and the
wording of each is given in one place.
-/

namespace QueryPipeline

open Number Text Time

/-- Why the host of a url is refused. -/
inductive HostFault
  /-- Brackets without a partner, or text next to them. -/
  | misplacedBrackets
  /-- A bracketed host of a future version that is not well formed. -/
  | futureAddress
  /-- A bracketed host that is no address. -/
  | notAnAddress (host : List Char)
  /-- A bracketed address of version four. -/
  | bracketedVersionFour
  /-- A character that normalises to a delimiter. -/
  | hiddenDelimiter (authority : List Char)
  deriving DecidableEq, Repr

/-- The wording of a refused host. -/
def HostFault.message : HostFault → String
  | misplacedBrackets => "Invalid IPv6 URL"
  | futureAddress => "IPvFuture address is invalid"
  | notAnAddress host =>
    String.ofList (quoted host) ++ " does not appear to be an IPv4 or IPv6 address"
  | bracketedVersionFour => "An IPv4 address cannot be in brackets"
  | hiddenDelimiter authority =>
    "netloc '" ++ String.ofList authority ++
      "' contains invalid characters under NFKC normalization"

/-- What is wrong with an argument. -/
inductive ProblemKind
  /-- The argument is missing. -/
  | missing
  /-- The argument is no whole number. -/
  | notAnInteger
  /-- A text denotes no whole number. -/
  | unreadableInteger
  /-- A text denotes a whole number of too many digits. -/
  | oversizedInteger
  /-- A number has a fraction. -/
  | fractionalInteger
  /-- A number is not finite. -/
  | notFinite
  /-- The argument is no text. -/
  | notAText
  /-- The argument is no truth value. -/
  | notABool
  /-- The argument denotes no truth value. -/
  | unreadableBool
  /-- The argument is no list. -/
  | notAList
  /-- The argument is no object. -/
  | notAnObject
  /-- The argument is neither a model nor an object. -/
  | notAModel
  /-- The argument is not among the literals. -/
  | notALiteral
  /-- The argument is no member of the enumeration. -/
  | notAMember
  deriving DecidableEq, Repr

/-- The name of what is wrong. -/
def ProblemKind.name : ProblemKind → String
  | missing => "missing"
  | notAnInteger => "int_type"
  | unreadableInteger => "int_parsing"
  | oversizedInteger => "int_parsing_size"
  | fractionalInteger => "int_from_float"
  | notFinite => "finite_number"
  | notAText => "string_type"
  | notABool => "bool_type"
  | unreadableBool => "bool_parsing"
  | notAList => "list_type"
  | notAnObject => "dict_type"
  | notAModel => "model_type"
  | notALiteral => "literal_error"
  | notAMember => "enum"

/-- A problem of an argument and where it is. -/
structure Problem where
  /-- The names and positions that lead to the argument. -/
  path : List String
  /-- What is wrong. -/
  kind : ProblemKind
  deriving DecidableEq, Repr

/-- The wording of a problem. -/
def Problem.text (problem : Problem) : String :=
  ".".intercalate problem.path ++ ": " ++ problem.kind.name

/-- Why an operation failed. -/
inductive Failure
  /-- A text has the shape of an object identifier and is none. -/
  | notAnObjectId (text : String)
  /-- A numeral has more digits than are read. -/
  | integerTooLong (digits : Nat)
  /-- A text is no whole number. -/
  | notAnInteger (text : String)
  /-- A whole number has more digits than are written. -/
  | unwritableInteger
  /-- A text denotes no point in time. -/
  | notADate
  /-- A point in time leaves the calendar. -/
  | dateOutOfRange
  /-- A quotient of whole numbers is beyond the floating point format. -/
  | quotientTooLarge
  /-- A whole number is beyond the floating point format. -/
  | integerTooLarge
  /-- An infinity has no whole number near it. -/
  | infinityToInteger
  /-- What is no number has no whole number near it. -/
  | nanToInteger
  /-- The host of a url is refused. -/
  | host (fault : HostFault)
  /-- A server is named under a scheme whose usual listening number is not known. -/
  | unknownScheme (scheme : String)
  /-- A count row does not hold the count. -/
  | totalMissing
  /-- A count row holds something else than a whole number. -/
  | totalNotAnInteger
  /-- The engine failed. -/
  | engine (text : String)
  /-- Arguments are of the wrong shape. -/
  | arguments (problems : List Problem)
  /-- A route does not start with a slash. -/
  | routeStart
  /-- A route ends with a slash. -/
  | routeEnd
  /-- A floating point number has no form in a response. -/
  | notFiniteInResponse
  /-- A regular expression has no form in a response. -/
  | regexInResponse
  deriving DecidableEq, Repr

/-- The failure of reading a whole number from a text. -/
def Failure.ofInteger (text : String) : IntegerFault → Failure
  | .tooLong digits => .integerTooLong digits
  | .malformed => .notAnInteger text

/-- The failure of reading a point in universal time. -/
def Failure.ofDate : DateFault → Failure
  | .malformed => .notADate
  | .outOfRange => .dateOutOfRange

/-- The most characters of a quoted text that a message about a numeral shows. -/
def quotedNumeralLength : Nat := 200

/-- The wording of a failure. -/
def Failure.message : Failure → String
  | notAnObjectId text =>
    String.ofList (quoted text.toList) ++
      " is not a valid ObjectId, it must be a 12-byte input or a 24-character hex string"
  | integerTooLong digits =>
    "Exceeds the limit (4300 digits) for integer string conversion: value has " ++
      decimalString digits ++
      " digits; use sys.set_int_max_str_digits() to increase the limit"
  | notAnInteger text =>
    "invalid literal for int() with base 10: " ++
      String.ofList ((quoted text.toList).take quotedNumeralLength)
  | unwritableInteger =>
    "Exceeds the limit (4300 digits) for integer string conversion; " ++
      "use sys.set_int_max_str_digits() to increase the limit"
  | notADate => "not a point in time"
  | dateOutOfRange => "date value out of range"
  | quotientTooLarge => "integer division result too large for a float"
  | integerTooLarge => "int too large to convert to float"
  | infinityToInteger => "cannot convert float infinity to integer"
  | nanToInteger => "cannot convert float NaN to integer"
  | host fault => fault.message
  | unknownScheme scheme => String.ofList (quoted scheme.toList)
  | totalMissing => "'total'"
  | totalNotAnInteger => "total is not a whole number"
  | engine text => text
  | arguments problems => "; ".intercalate (problems.map Problem.text)
  | routeStart => "A path prefix must start with '/'"
  | routeEnd =>
    "A path prefix must not end with '/', as the routes will start with '/'"
  | notFiniteInResponse => "Out of range float values are not JSON compliant"
  | regexInResponse =>
    "[TypeError(\"'Regex' object is not iterable\"), " ++
      "TypeError('vars() argument must have __dict__ attribute')]"

end QueryPipeline
