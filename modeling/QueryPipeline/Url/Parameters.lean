import QueryPipeline.Text.Hex
import QueryPipeline.Text.Split
import QueryPipeline.Text.Utf8
import QueryPipeline.Url.Basic

/-!
# Query parameters

The query of a url is a list of pairs. Writing escapes the octets of every character except letters,
digits and four marks, and writes a space as a plus sign. Reading is lenient: an escape that is not
well formed stands for itself, and octets that are no text are replaced.
-/

namespace QueryPipeline.Url

open Text

/-- The pairs of a query in order. -/
abbrev Parameters := List (String × String)

/-- The characters that are written as they are. -/
def isUnreserved (c : Char) : Bool :=
  c.isAlphanum || c == '_' || c == '.' || c == '-' || c == '~'

/-- An octet as a percent sign and two upper case digits. -/
def escapeOctet (octet : UInt8) : List Char :=
  ['%', hexDigitUpper (octet.toNat / 16), hexDigitUpper (octet.toNat % 16)]

/-- A character as it is written in a query. -/
def encodeChar (c : Char) : List Char :=
  if isUnreserved c then [c]
  else if c = ' ' then ['+']
  else (String.utf8EncodeChar c).flatMap escapeOctet

/-- A key or value as it is written in a query. -/
def encode (text : List Char) : List Char := text.flatMap encodeChar

/-- The octets of a text of ASCII characters, escapes being read. -/
def octets : List Char → List UInt8
  | [] => []
  | '%' :: high :: low :: rest =>
    match hexValue? high, hexValue? low with
    | some a, some b => UInt8.ofNat (16 * a + b) :: octets rest
    | _, _ => '%'.toNat.toUInt8 :: octets (high :: low :: rest)
  | c :: rest => c.toNat.toUInt8 :: octets rest

/-- Whether a character is one of ASCII. -/
def isAscii (c : Char) : Bool := c.toNat < 0x80

/-- The characters of a text after a run of ASCII characters, which is given in reverse. Octets are
put together within such a run only. -/
def unescapeFrom (run : List Char) : List Char → List Char
  | [] => Utf8.decode (octets run.reverse)
  | c :: rest =>
    if isAscii c then unescapeFrom (c :: run) rest
    else Utf8.decode (octets run.reverse) ++ c :: unescapeFrom [] rest

/-- A key or value that is written in a query. -/
def decode (text : List Char) : List Char :=
  unescapeFrom [] (text.map fun c => if c = '+' then ' ' else c)

namespace Parameters

/-- The pair of one piece of a query; a piece without an equals sign has an empty value. -/
def readPair (piece : List Char) : String × String :=
  (String.ofList (decode (before '=' piece)), String.ofList (decode (after '=' piece)))

/-- The pairs of a query. -/
def read (query : List Char) : Parameters :=
  ((splitOn '&' query).filter (!·.isEmpty)).map readPair

/-- The text of one pair. -/
def writePair (pair : String × String) : List Char :=
  encode pair.1.toList ++ '=' :: encode pair.2.toList

/-- The text of the pairs. -/
def write (parameters : Parameters) : List Char := joinWith '&' (parameters.map writePair)

/-- All values under a key in order. -/
def all (parameters : Parameters) (key : String) : List String :=
  (parameters.filter (·.1 == key)).map (·.2)

/-- The last value under a key. -/
def last? (parameters : Parameters) (key : String) : Option String :=
  (parameters.all key).getLast?

end Parameters

/-- The query parameters of the url that a text denotes. -/
def readParameters (text : String) : Except Failure Parameters :=
  (read text.toList).map fun url => Parameters.read url.query

end QueryPipeline.Url
