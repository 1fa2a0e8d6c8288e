import QueryPipeline.Filter.Share
import QueryPipeline.Request.Page

/-!
# Pages of a list

A page is a window of a sorted list with what a client needs to walk on: how many documents and
pages there are, and the numbers of the pages beside it. Where everything is asked for at once there
is a single page, or none if there is nothing.
-/

namespace QueryPipeline

open Document Number Pipeline

/-- A page of a list. -/
structure Page where
  /-- The number of the page. -/
  page : Int
  /-- The size of the page. -/
  limit : Int
  /-- The number of documents in the list. -/
  total : Int
  /-- The number of pages. -/
  totalPages : Int
  /-- Whether a page follows. -/
  hasNext : Bool
  /-- Whether a page comes before. -/
  hasPrevious : Bool
  /-- The number of the page that follows. -/
  next : Option Int
  /-- The number of the page that comes before. -/
  previous : Option Int
  /-- The documents on the page. -/
  items : List Value

/-- The direction that a request sorts in, in any case of letters. -/
def PageRequest.direction (request : PageRequest) (options : Options) : Direction :=
  let written := ((request.sortDirection.getD "").toList.map Char.toLower)
  (Direction.ofToken? (String.ofList written)).getD options.sortDirection

/-- The stage that sorts for a request. -/
def sortStage (request : PageRequest) (options : Options) : Stage :=
  .sort ((nonEmpty request.sortField).getD options.sortField) (request.direction options)

/-- The stages that cut out the page of a request. -/
def pageStages (request : PageRequest) : List Stage :=
  if request.isPaged then [.skip request.skip, .limit request.limit] else []

/-- The number of pages of a size that hold a number of documents, by the nearest floating point
quotient. -/
def pagesOf (total limit : Int) : Except Failure Int :=
  (Binary64.ofQuotient total limit).ceil.mapError fun _ => .quotientTooLarge

/-- The number of pages that a request asks for. -/
def PageRequest.totalPages (request : PageRequest) (total : Int) : Except Failure Int :=
  if request.isPaged then pagesOf total request.limit
  else .ok (if total = 0 then 0 else 1)

/-- The problems of the items of a page from a position on: each has to be an object. -/
def itemProblems (position : Nat) : List Value → List Problem
  | [] => []
  | .object _ :: rest => itemProblems (position + 1) rest
  | _ :: rest =>
    ⟨["items", decimalString position], .notAnObject⟩ :: itemProblems (position + 1) rest

/-- The page of a request with the given number of documents in the list. -/
def makePage (request : PageRequest) (total : Int) (items : List Value) : Except Failure Page := do
  let totalPages ← request.totalPages total
  let hasNext := request.page < totalPages
  let hasPrevious := 1 < request.page
  match itemProblems 0 items with
  | [] =>
    .ok
      { page := request.page
        limit := request.limit
        total
        totalPages
        hasNext
        hasPrevious
        next := if hasNext then some (request.page + 1) else none
        previous := if hasPrevious then some (request.page - 1) else none
        items }
  | problems => .error (.arguments problems)

/-- The request for the first page and nothing else. -/
def PageRequest.first (limit : Int) : PageRequest :=
  ⟨1, limit, none, none, [], none, false, false⟩

/-- The first page of a list of nothing. -/
def emptyPage (options : Options) : Except Failure Page :=
  makePage (.first options.limit) 0 []

end QueryPipeline
