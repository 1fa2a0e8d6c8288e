import QueryPipeline.Number.Integer
import QueryPipeline.Request.Options
import QueryPipeline.Text.Blank
import QueryPipeline.Url.Parameters

/-!
# Requests for a page

The query parameters of a url say which page of a list is asked for. Nothing that a url says can
fail but the url itself: a number that cannot be read counts as not given.
-/

namespace QueryPipeline

open Number Text Url

/-- A request for a page. -/
structure PageRequest where
  /-- The number of the page, the first being one. -/
  page : Int
  /-- The size of the page. -/
  limit : Int
  /-- The field to sort by. -/
  sortField : Option String
  /-- The direction to sort in, as it was written. -/
  sortDirection : Option String
  /-- The filters as they were written. -/
  filters : List String
  /-- The identifier of a document. -/
  id : Option String
  /-- Whether everything is asked for at once. -/
  unpaged : Bool
  /-- Whether only the number of documents is asked for. -/
  countOnly : Bool
  deriving DecidableEq, Repr

/-- The parameter that holds the number of the page. -/
def pageKey : String := "page"

/-- The parameter that holds the size of the page. -/
def limitKey : String := "limit"

/-- The parameter that holds the sort. -/
def sortKey : String := "sort"

/-- The parameter that holds a filter. -/
def filterKey : String := "filter"

/-- The parameter that holds the identifier of a document. -/
def idKey : String := "id"

/-- The parameter that asks for everything at once. -/
def unpagedKey : String := "export"

/-- The parameter that asks for the number of documents only. -/
def countOnlyKey : String := "countResultOnly"

/-- The words that turn a flag off. -/
def offWords : List String := ["0", "false", "no", "off"]

/-- Whether a flag is set: by any text but the empty one and the words that turn it off. -/
def isFlagSet : Option String → Bool
  | none => false
  | some text =>
    text ≠ "" && !offWords.contains (String.ofList ((trim text.toList).map Char.toLower))

/-- A whole number, or a default where none can be read. -/
def integerOr (default : Int) : Option String → Int
  | none => default
  | some text =>
    match readInteger text.toList with
    | .ok n => n
    | .error _ => default

/-- A text unless it is missing or empty. -/
def nonEmpty : Option String → Option String
  | some text => if text = "" then none else some text
  | none => none

/-- The text before the first separator of a sort, and the text after it. -/
def sortParts (text : String) : Option String × Option String :=
  (nonEmpty (some (String.ofList (before '|' text.toList))),
    nonEmpty (some (String.ofList (after '|' text.toList))))

/-- The request that query parameters make. -/
def PageRequest.ofParameters (parameters : Parameters) (options : Options) : PageRequest :=
  let sort := sortParts ((parameters.last? sortKey).getD "")
  { page := max (integerOr 1 (parameters.last? pageKey)) 1
    limit := min (integerOr options.limit (parameters.last? limitKey)) options.limit
    sortField := sort.1
    sortDirection := sort.2
    filters := parameters.all filterKey
    id := nonEmpty (parameters.last? idKey)
    unpaged := isFlagSet (parameters.last? unpagedKey)
    countOnly := isFlagSet (parameters.last? countOnlyKey) }

/-- The request that a url makes. -/
def PageRequest.ofUrl (url : String) (options : Options) : Except Failure PageRequest :=
  (readParameters url).map fun parameters => PageRequest.ofParameters parameters options

namespace PageRequest

/-- The number of documents before the page. -/
def skip (request : PageRequest) : Int := (request.page - 1) * request.limit

/-- Whether the request is for one page among several. -/
def isPaged (request : PageRequest) : Bool := !request.unpaged && 0 < request.limit

end PageRequest

end QueryPipeline
