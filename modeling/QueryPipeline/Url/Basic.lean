import QueryPipeline.Url.Host

/-!
# Urls

A url is read into scheme, authority, path, query and fragment and written back from them. Reading
drops control characters and spaces at the start, and tabs and line breaks everywhere; writing gives
the schemes that have an authority one even when it is empty.
-/

namespace QueryPipeline

open Text

/-- The parts of a url. -/
structure Url where
  /-- The scheme in lower case, or nothing. -/
  scheme : List Char
  /-- User information, and the host with the number it listens on. -/
  authority : List Char
  /-- The path. -/
  path : List Char
  /-- The query, still encoded. -/
  query : List Char
  /-- The fragment. -/
  fragment : List Char
  deriving DecidableEq, Repr

namespace Url

/-- Whether a character may stand in a scheme. -/
def isSchemeChar (c : Char) : Bool := c.isAlphanum || c == '+' || c == '-' || c == '.'

/-- The scheme in lower case and what follows its colon; a scheme starts with a letter. -/
def takeScheme (text : List Char) : List Char × List Char :=
  match cut? ':' text with
  | some (scheme, rest) =>
    if (scheme.head?.map Char.isAlpha).getD false && scheme.all isSchemeChar then
      (scheme.map Char.toLower, rest)
    else ([], text)
  | none => ([], text)

/-- Whether a character ends the authority. -/
def endsAuthority (c : Char) : Bool := c == '/' || c == '?' || c == '#'

/-- The authority after two slashes and what follows it. -/
def takeAuthority : List Char → List Char × List Char
  | '/' :: '/' :: rest => (rest.takeWhile (!endsAuthority ·), rest.dropWhile (!endsAuthority ·))
  | text => ([], text)

/-- The text without leading control characters and spaces and without tabs and line breaks. -/
def clean (text : List Char) : List Char :=
  (text.dropWhile fun c => c.toNat ≤ 0x20).filter fun c => c ≠ '\t' ∧ c ≠ '\r' ∧ c ≠ '\n'

/-- The parts of a text. -/
def split (text : List Char) : Url :=
  let (scheme, rest) := takeScheme (clean text)
  let (authority, rest) := takeAuthority rest
  let beforeFragment := before '#' rest
  ⟨scheme, authority, before '?' beforeFragment, after '?' beforeFragment, after '#' rest⟩

/-- What is wrong with the authority of a url. -/
def fault? (url : Url) : Option HostFault :=
  (bracketFault? url.authority).or (delimiterFault? url.authority)

/-- The url that a text denotes. -/
def read (text : List Char) : Except Failure Url :=
  match (split text).fault? with
  | some fault => .error (.host fault)
  | none => .ok (split text)

/-- The schemes whose urls have an authority. That of encrypted streams, rtsps, is none of them. -/
def authoritySchemes : List String :=
  ["ftp", "http", "gopher", "nntp", "telnet", "imap", "wais", "file", "mms", "https", "shttp",
   "snews", "prospero", "rtsp", "rtspu", "rsync", "svn", "svn+ssh", "sftp", "nfs", "git", "git+ssh",
   "ws", "wss"]

/-- Whether two slashes and the authority are written. -/
def hasAuthority (url : Url) : Bool :=
  !url.authority.isEmpty ||
    (authoritySchemes.contains (String.ofList url.scheme) && url.path.take 2 != ['/', '/'])

/-- A path that starts with a slash unless it is empty. -/
def rooted (path : List Char) : List Char :=
  if path.isEmpty || path.head? == some '/' then path else '/' :: path

/-- The text of a url. -/
def write (url : Url) : List Char :=
  (if url.scheme.isEmpty then [] else url.scheme ++ [':']) ++
    (if url.hasAuthority then '/' :: '/' :: url.authority ++ rooted url.path else url.path) ++
    (if url.query.isEmpty then [] else '?' :: url.query) ++
    (if url.fragment.isEmpty then [] else '#' :: url.fragment)

end Url

end QueryPipeline
