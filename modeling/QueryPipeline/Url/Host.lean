import QueryPipeline.Failure
import QueryPipeline.Text.Hex
import QueryPipeline.Text.Split

/-!
# The hosts that a url may name

Only two things about the authority of a url are checked: what stands in brackets has to be an
address of version six or of a later version, and no character may turn into a delimiter when it is
normalised.
-/

namespace QueryPipeline.Url

open Text

/-- Whether a text is a decimal number of one octet without a superfluous zero. -/
def isOctet (text : List Char) : Bool :=
  text.all Char.isDigit && 1 ≤ text.length && text.length ≤ 3 &&
    (text == ['0'] || text.head? != some '0') &&
    text.foldl (fun n c => 10 * n + (c.toNat - '0'.toNat)) 0 ≤ 255

/-- Whether a text is an address of version four. -/
def isVersionFour (text : List Char) : Bool :=
  let parts := splitOn '.' text
  parts.length == 4 && parts.all isOctet

/-- Whether a text is one group of an address of version six. -/
def isGroup (text : List Char) : Bool :=
  1 ≤ text.length && text.length ≤ 4 && text.all isHexDigit

/-- The groups of an address; an address of version four at the end counts as two groups. -/
def groups? (text : List Char) : Option (List (List Char)) :=
  let parts := splitOn ':' text
  let last := parts.getLastD []
  if last.contains '.' then
    if isVersionFour last then some (parts.dropLast ++ [['0'], ['0']]) else none
  else some parts

/-- The groups on one side of the gap in an address; a colon at the end of the text is no group. -/
def sideLength? (side : List (List Char)) : Option Nat :=
  if side == [[]] then some 0 else if side.all isGroup then some side.length else none

/-- Whether groups make an address: eight of them, or at most seven around one gap. -/
def areGroups (groups : List (List Char)) : Bool :=
  let inner := (groups.drop 1).dropLast
  match inner.findIdx? List.isEmpty with
  | none => groups.length == 8 && groups.all isGroup
  | some gap =>
    match sideLength? (groups.take (gap + 1)), sideLength? (groups.drop (gap + 2)) with
    | some high, some low => high + low ≤ 7
    | _, _ => false

/-- Whether a text is an address of version six, with the name of a zone or without. -/
def isVersionSix (text : List Char) : Bool :=
  let zone := after '%' text
  (!text.contains '%' || (!zone.isEmpty && !zone.contains '%')) &&
    match groups? (before '%' text) with
    | some groups => 3 ≤ groups.length && areGroups groups
    | none => false

/-- Whether a text is an address of a later version: `v`, its number, a point and the address. -/
def isFutureAddress (text : List Char) : Bool :=
  match text with
  | 'v' :: rest =>
    !(rest.takeWhile isHexDigit).isEmpty &&
      match rest.dropWhile isHexDigit with
      | '.' :: _ :: _ => true
      | _ => false
  | _ => false

/-- What is wrong with the host of an authority that has brackets. -/
def bracketedHostFault? (host : List Char) : Option HostFault :=
  if host.head? = some 'v' then if isFutureAddress host then none else some .futureAddress
  else if isVersionFour host then some .bracketedVersionFour
  else if isVersionSix host then none
  else some (.notAnAddress host)

/-- What is wrong with the brackets of an authority. Text may stand before them only as user
information, and after them only behind a colon. -/
def bracketFault? (authority : List Char) : Option HostFault :=
  if authority.contains '[' != authority.contains ']' then some .misplacedBrackets
  else if !authority.contains '[' then none
  else
    let server := afterLast '@' authority
    match cut? '[' server with
    | none => bracketedHostFault? (before ':' server)
    | some (leading, bracketed) =>
      let trailing := after ']' bracketed
      if !leading.isEmpty || !(trailing.isEmpty || trailing.head? = some ':') then
        some .misplacedBrackets
      else bracketedHostFault? (before ']' bracketed)

/-- The characters whose compatibility form holds a slash, a question mark, a number sign, an at
sign or a colon. -/
def hiddenDelimiters : List Nat :=
  [0x2047, 0x2048, 0x2049, 0x2100, 0x2101, 0x2105, 0x2106, 0x2A74, 0xFE13, 0xFE16, 0xFE55, 0xFE56,
   0xFE5F, 0xFE6B, 0xFF03, 0xFF0F, 0xFF1A, 0xFF1F, 0xFF20]

/-- What is wrong with the characters of an authority. -/
def delimiterFault? (authority : List Char) : Option HostFault :=
  if authority.any fun c => hiddenDelimiters.contains c.toNat then
    some (.hiddenDelimiter authority)
  else none

end QueryPipeline.Url
