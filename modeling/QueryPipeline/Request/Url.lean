import QueryPipeline.Request.Page

/-!
# Urls for requests

A client makes the url of a request from another url and the parameters that it sets. Each of these
replaces what the url held under its key; everything else stays as it was and where it was.
-/

namespace QueryPipeline

open Number Url

/-- The parameters that a client sets. -/
structure UrlOptions where
  /-- The number of the page. -/
  page : Option Int
  /-- The size of the page. -/
  limit : Option Int
  /-- The sort. -/
  sort : Option String
  /-- The filters. -/
  filters : List String
  /-- The identifier of a document. -/
  id : Option String
  /-- Whether everything is asked for at once. -/
  unpaged : Bool
  /-- Whether only the number of documents is asked for. -/
  countOnly : Bool
  deriving DecidableEq, Repr

namespace UrlOptions

/-- No parameter. -/
def none : UrlOptions := ⟨.none, .none, .none, [], .none, false, false⟩

/-- Only the number of the page. -/
def ofPage (page : Int) : UrlOptions := { none with page := some page }

/-- Whether the numbers can be written. -/
def canBeWritten (options : UrlOptions) : Bool :=
  options.page.all isWritable && options.limit.all isWritable

/-- The pair of a number. -/
def numberPair (key : String) (n : Option Int) : Parameters :=
  (n.map fun n => (key, decimalString n)).toList

/-- The pair of a text that is not empty. -/
def textPair (key : String) (text : Option String) : Parameters :=
  ((nonEmpty text).map fun text => (key, text)).toList

/-- The pair of a flag that is set. -/
def flagPair (key : String) (flag : Bool) : Parameters := if flag then [(key, "true")] else []

/-- The pairs of the parameters that are set. -/
def parameters (options : UrlOptions) : Parameters :=
  numberPair pageKey options.page ++ numberPair limitKey options.limit ++
    textPair sortKey options.sort ++ options.filters.map (filterKey, ·) ++
    textPair idKey options.id ++ flagPair unpagedKey options.unpaged ++
    flagPair countOnlyKey options.countOnly

end UrlOptions

/-- The pairs of a url after the pairs that a client sets have replaced those of their keys. -/
def overriding (existing set : Parameters) : Parameters :=
  existing.filter (fun pair => !set.any (·.1 == pair.1)) ++ set

/-- A url with the parameters that a client sets. -/
def buildUrl (base : String) (options : UrlOptions) : Except Failure String :=
  if options.canBeWritten then
    (Url.read base.toList).map fun url =>
      let query := (overriding (Parameters.read url.query) options.parameters).write
      String.ofList { url with query := query }.write
  else .error .unwritableInteger

/-- The urls after each of a list of steps. -/
def buildUrls (base : String) : List UrlOptions → Except Failure (List String)
  | [] => .ok []
  | options :: rest => do
    let url ← buildUrl base options
    let urls ← buildUrls url rest
    .ok (url :: urls)

end QueryPipeline
