import QueryPipeline.Text.DecimalDigit
import QueryPipeline.Url.Parameters

/-!
# Host headers

A client names the host that it wants by a name or by an address in brackets, perhaps with the
number that the host listens on. A header of any other form names no host.
-/

namespace QueryPipeline.Url

open Text

/-- Whether a character may separate the parts of a name. -/
def isSubDelimiter (c : Char) : Bool := "!$&'()*+,;=".toList.contains c

/-- Whether a text is a name: letters, digits, marks and escapes. -/
def isName : List Char → Bool
  | [] => true
  | '%' :: high :: low :: rest => isHexDigit high && isHexDigit low && isName rest
  | c :: rest => (isUnreserved c || isSubDelimiter c) && isName rest

/-- The largest number that a host can listen on. -/
def maxListeningNumber : Nat := 65535

/-- Whether a text gives the number that a host listens on, behind a colon, or nothing. -/
def isListeningSuffix : List Char → Bool
  | [] => true
  | ':' :: digits =>
    !digits.isEmpty && digits.all Char.isDigit &&
      ofDigits (digits.filterMap asciiDigitValue?) ≤ maxListeningNumber
  | _ => false

/-- Whether a text is an address that may stand in brackets. Zones are not named in headers. -/
def isBracketedAddress (text : List Char) : Bool :=
  text.all (fun c => isUnreserved c || isSubDelimiter c || c == ':') &&
    (bracketedHostFault? text).isNone

/-- Whether a text names a host. -/
def namesHost : List Char → Bool
  | '[' :: text =>
    match cut? ']' text with
    | some (address, rest) => isBracketedAddress address && isListeningSuffix rest
    | none => false
  | text =>
    let name := before ':' text
    !name.isEmpty && isName name && isListeningSuffix (text.dropWhile (· ≠ ':'))

end QueryPipeline.Url
