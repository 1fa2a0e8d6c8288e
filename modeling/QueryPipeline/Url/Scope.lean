import QueryPipeline.Number.Integer
import QueryPipeline.Url.HostHeader

/-!
# The url of a received request

A server hands over a request as its parts. The host that the client named comes before the address
of the server; a url with neither has no scheme and cannot start as if it had an authority. The path
cannot run into the other parts of the url.
-/

namespace QueryPipeline.Url

open Number

/-- The parts of a received request that make its url. -/
structure Scope where
  /-- The scheme. -/
  scheme : String
  /-- The name of the server and the number it listens on, if they are known. -/
  server : Option (String × Int)
  /-- The decoded path. -/
  path : String
  /-- The query as it was sent. -/
  query : String
  /-- The headers as they were sent. -/
  headers : List (String × String)

/-- The number that the servers of a scheme listen on unless it is given. -/
def listeningNumber? (scheme : String) : Option Int :=
  [("http", 80), ("https", 443), ("ws", 80), ("wss", 443)].lookup scheme

/-- A path whose delimiters of other parts are escaped. -/
def protectPath (path : List Char) : List Char :=
  path.flatMap fun c => if c = '?' ∨ c = '#' ∨ c = '\x5c' then escapeOctet c.toNat.toUInt8 else [c]

/-- A path that cannot be read as an authority. -/
def protectStart : List Char → List Char
  | '/' :: '/' :: rest => '/' :: escapeOctet '/'.toNat.toUInt8 ++ rest
  | path => path

/-- The host of a server, in brackets if it holds colons and does not start with one already. -/
def bracketed (host : List Char) : List Char :=
  if host.contains ':' && host.head? != some '[' then '[' :: host ++ [']'] else host

/-- The authority of a server under a scheme, the usual number of which is not written. -/
def serverAuthority (scheme host : String) (number : Int) : Except Failure (List Char) :=
  match listeningNumber? scheme with
  | none => .error (.unknownScheme scheme)
  | some usual =>
    .ok (bracketed host.toList ++ (if number = usual then [] else ':' :: decimal number))

namespace Scope

/-- The host that the client named in the first host header. -/
def namedHost? (scope : Scope) : Option (List Char) :=
  ((scope.headers.lookup "host").map String.toList).filter namesHost

/-- The authority of the request, if it has one. -/
def authority? (scope : Scope) : Except Failure (Option (List Char)) :=
  match scope.namedHost?, scope.server with
  | some host, _ => .ok (some host)
  | none, some (host, number) => (serverAuthority scope.scheme host number).map some
  | none, none => .ok none

/-- The parts of the url under an authority, or under none. -/
def toUrl (scope : Scope) : Option (List Char) → Url
  | some authority =>
    ⟨scope.scheme.toList, authority, protectPath scope.path.toList, scope.query.toList, []⟩
  | none => ⟨[], [], protectStart (protectPath scope.path.toList), scope.query.toList, []⟩

/-- The url of the request. -/
def url (scope : Scope) : Except Failure String :=
  scope.authority?.map fun authority => String.ofList (scope.toUrl authority).write

end Scope

end QueryPipeline.Url
