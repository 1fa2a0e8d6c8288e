import QueryPipeline.Fetch.List

/-!
# Fetching a page of several collections

The first source is the base; each of the others is added with its own stages and the same filters.
Every document is tagged with the name of its collection. Filters do not ask for shares here.
-/

namespace QueryPipeline

open Number Pipeline

/-- A collection with the stages that come before and after the filters. -/
structure Source where
  /-- The name of the collection. -/
  collection : String
  /-- The stages before the filters. -/
  initial : List Stage
  /-- The stages after the tag. -/
  final : List Stage

/-- The stages of a source up to the tag. -/
def Source.tagged (source : Source) (filters : List Stage) (field : String) : List Stage :=
  source.initial ++ filters ++ [.tag field source.collection]

/-- The stage that adds a source to what the base yields. -/
def Source.union (filters : List Stage) (field : String) (source : Source) : Stage :=
  .union source.collection (source.tagged filters field ++ source.final)

/-- The stages of a union before the sort. -/
def unionStages (base : Source) (others : List Source) (filters : List Stage) (field : String) :
    List Stage :=
  base.tagged filters field ++ others.map (Source.union filters field) ++ base.final

/-- The pipeline that yields the page of a request, given the stages of the union. -/
def unionPipeline (request : PageRequest) (options : Options) (stages : List Stage) : List Stage :=
  stages ++ [sortStage request options] ++ pageStages request

/-- Fetch the page of several collections that a request asks for. -/
def fetchUnion (sources : List Source) (request : Request) (options : Options) : Session Page :=
  match sources with
  | [] => Session.ofExcept (emptyPage options)
  | base :: others => do
    let url ← Session.ofExcept request.url
    let asked ← Session.ofExcept (PageRequest.ofUrl url options)
    let filters ← Session.ofExcept (filtersOfUrl url options.tenant options.tenantField)
    let selected ← Session.ofExcept (compile filters)
    let stages := unionStages base others selected options.sourceField
    let total ← Session.count base.collection stages
    if asked.countOnly then Session.ofExcept (makePage asked total [])
    else do
      let items ← Session.fetchAll base.collection (unionPipeline asked options stages)
      Session.log .info fetchLogger
        (fetchedText ("unified list over " ++ decimalString sources.length ++ " collections")
          asked.page total items.length)
      Session.ofExcept (makePage asked total items)

end QueryPipeline
