import QueryPipeline.Document.Json
import QueryPipeline.Fetch.Item
import QueryPipeline.Fetch.List
import QueryPipeline.Text.Utf8
import QueryPipeline.Url.Scope

/-!
# Routes over a collection

A router offers a list endpoint and an item endpoint for one collection under a common path. The
documents are shown as responses show them; an item that is not found is answered as such.
-/

namespace QueryPipeline

open Document Number Text Url

/-- An endpoint of a router. -/
inductive Endpoint
  /-- One page of the list. -/
  | items
  /-- One document. -/
  | item
  deriving DecidableEq, Repr

/-- The path of an endpoint below the path of its router. -/
def Endpoint.path : Endpoint → String
  | items => "/items"
  | item => "/item"

/-- The description of an endpoint under a largest page. -/
def Endpoint.description (limit : Int) : Endpoint → String
  | items =>
    "Query-Parameter: `page` (ab 1), `limit` (maximal " ++ decimalString limit ++
      "), `sort` wie 'price|asc', `filter` wie 'price|amount|gt|100' oder 'name|apfel' " ++
      "(mehrfach erlaubt), `export=true` für alle Items ohne Pagination, " ++
      "`countResultOnly=true` nur für die Anzahl"
  | item => ""

/-- A route. -/
structure Route where
  /-- The whole path. -/
  path : String
  /-- The methods that are answered. -/
  methods : List String
  /-- What the route does. -/
  description : String
  /-- The tags that group routes. -/
  tags : List String
  deriving DecidableEq, Repr

/-- A router. -/
structure Router where
  /-- The options of the list. -/
  options : Options
  /-- The path that the paths of the endpoints are put below. -/
  base : String
  /-- The tags of the routes. -/
  tags : List String

/-- The tags of a router that is given none. -/
def defaultTags : List String := ["query"]

/-- What keeps a path from being the base of a router. -/
def baseFault? (base : String) : Option Failure :=
  if base = "" then none
  else if base.toList.head? ≠ some '/' then some .routeStart
  else if base.toList.getLast? = some '/' then some .routeEnd
  else none

/-- The router with the given options, base and tags. -/
def Router.make (options : Options) (base : String) (tags : List String) : Except Failure Router :=
  match baseFault? base with
  | some fault => .error fault
  | none =>
    if isWritable options.limit then
      .ok ⟨options, base, if tags.isEmpty then defaultTags else tags⟩
    else .error .unwritableInteger

/-- The route of an endpoint. -/
def Router.route (router : Router) (endpoint : Endpoint) : Route :=
  ⟨router.base ++ endpoint.path, ["GET"], endpoint.description router.options.limit, router.tags⟩

/-- The routes of a router. -/
def Router.routes (router : Router) : List Route :=
  [router.route .items, router.route .item]

/-- The endpoint with a path. -/
def Router.endpoint? (router : Router) (path : String) : Option Endpoint :=
  [Endpoint.items, .item].find? fun endpoint => (router.route endpoint).path == path

/-- The answer to a request. -/
structure Reply where
  /-- The status. -/
  status : Nat
  /-- The body. -/
  body : Value

/-- A page as a value. -/
def Page.toValue (page : Page) : Value :=
  let number? (n : Option Int) : Value := (n.map Value.int).getD .null
  .object
    [("page", .int page.page), ("limit", .int page.limit), ("total", .int page.total),
     ("total_pages", .int page.totalPages), ("has_next_page", .bool page.hasNext),
     ("has_prev_page", .bool page.hasPrevious), ("next_page", number? page.next),
     ("prev_page", number? page.previous), ("items", .array page.items)]

/-- The status of an answer that holds what was asked for. -/
def okStatus : Nat := 200

/-- The status of an answer to a request for something that is not there. -/
def notFoundStatus : Nat := 404

/-- The body of an answer to a request for a document that is not there. -/
def notFoundBody : Value := .object [("detail", .text "Item not found")]

/-- The name of the logger of routers. -/
def routerLogger : String := "UrlQuery Router"

/-- The log text for a document that is not there. -/
def notFoundText (id : Option String) (collection : String) : String :=
  "item " ++ id.getD "None" ++ " not in collection " ++ collection

/-- The last identifier in a query as it was sent, each octet of which is one character. -/
def sentId (query : String) : Option String :=
  let octets := (Utf8.encode query.toList).map fun octet => Char.ofNat octet.toNat
  (Parameters.read octets).last? idKey

/-- Answer a request for a page. -/
def Router.replyItems (router : Router) (collection : String) (request : Scope) :
    Session Reply := do
  let page ← fetchList collection (.received request) router.options [] []
  let body ← Session.ofExcept page.toValue.toBody
  pure ⟨okStatus, body⟩

/-- Answer a request for a document. -/
def Router.replyItem (collection : String) (request : Scope) : Session Reply := do
  let notFound : Session Reply := do
    Session.log .warning routerLogger (notFoundText (sentId request.query) collection)
    pure ⟨notFoundStatus, notFoundBody⟩
  match ← fetchItem collection (.received request) [] [] none with
  | none => notFound
  | some .null => notFound
  | some item => do
    let body ← Session.ofExcept item.toBody
    pure ⟨okStatus, body⟩

/-- Answer a request to an endpoint. -/
def Router.reply (router : Router) (collection : String) (request : Scope) :
    Endpoint → Session Reply
  | .items => router.replyItems collection request
  | .item => Router.replyItem collection request

end QueryPipeline
