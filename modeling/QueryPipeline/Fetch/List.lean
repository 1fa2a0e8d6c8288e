import QueryPipeline.Fetch.Page
import QueryPipeline.Filter.Tenant
import QueryPipeline.Request.Basic

/-!
# Fetching a page of a collection

The documents are counted first, after the caller's own stages and the filters of the request; then
the page is fetched with the same stages, the sort, the caller's final stages and the window of the
page. A pipeline that sorts already is not sorted again.
-/

namespace QueryPipeline

open Number Pipeline

/-- The name of the logger of fetches. -/
def fetchLogger : String := "UrlQuery Fetch"

/-- What happened in a fetch of a page. -/
def fetchedText (what : String) (page total : Int) (received : Nat) : String :=
  what ++ " fetched: page " ++ decimalString page ++ ", " ++ decimalString received ++ " of " ++
    decimalString total

/-- The pipeline that yields the page of a request, given the stages before the sort. -/
def pagePipeline (request : PageRequest) (options : Options) (selected final : List Stage) :
    List Stage :=
  selected ++ (if hasStage "$sort" selected then [] else [sortStage request options]) ++ final ++
    pageStages request

/-- Fetch the page of a request whose documents pass the given stages. -/
def fetchSelected (collection : String) (request : PageRequest) (options : Options)
    (selected final : List Stage) : Session Page := do
  let total ← Session.count collection selected
  if request.countOnly then Session.ofExcept (makePage request total [])
  else do
    let items ← Session.fetchAll collection (pagePipeline request options selected final)
    Session.log .info fetchLogger
      (fetchedText ("list of " ++ collection) request.page total items.length)
    Session.ofExcept (makePage request total items)

/-- Fetch the page of a collection that a request asks for. -/
def fetchList (collection : String) (request : Request) (options : Options)
    (initial final : List Stage) : Session Page := do
  let url ← Session.ofExcept request.url
  let asked ← Session.ofExcept (PageRequest.ofUrl url options)
  let filters ← Session.ofExcept (filtersOfUrl url options.tenant options.tenantField)
  let stages ← compileShares collection filters
  fetchSelected collection asked options (initial ++ stages) final

end QueryPipeline
