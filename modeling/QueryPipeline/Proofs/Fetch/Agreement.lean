import QueryPipeline.Proofs.Fetch.Calls
import QueryPipeline.Proofs.Filter.ShareCount

/-!
# The count and the page of a list

A list that is fetched has sent one count for every filter that is counted for, one count of what
passes the stages of the caller and the filters, and unless only the count is asked for, one call
for the page. The page goes through the very stages that were counted; its sort, the final stages of
the caller and its window come after them.
-/

namespace QueryPipeline

open Document Number Pipeline Url

/-- A list that is fetched has compiled its filters and then fetched its page. -/
theorem fetchList_eq_ok {engine : Engine} {collection : String} {request : Request}
    {options : Options} {initial final : List Stage} {page : Page}
    (fetched : ((fetchList collection request options initial final).run engine).1 = .ok page) :
    ∃ parameters selected between, request.parameters = .ok parameters ∧
      (compileShares collection (parameters.confined options)).run engine =
        (.ok selected, between) ∧
      Builds engine collection [] (parameters.confined options) .empty (.ok selected) between ∧
      Fetched engine collection (.ofParameters parameters options) (initial ++ selected)
        (pagePipeline (.ofParameters parameters options) options (initial ++ selected) final)
        ("list of " ++ collection) between (.ok page)
        ((fetchList collection request options initial final).run engine).2 := by
  have run := fetchList_cases engine collection request options initial final
  rw [fetched] at run
  generalize ((fetchList collection request options initial final).run engine).2 = after at run ⊢
  generalize result : Except.ok page = outcome at run
  cases run with
  | unread | uncompiled => cases result
  | compiled read run page => exact ⟨_, _, _, read, run.apply, run, result ▸ page⟩

/-- The calls of a list that is fetched, and what its page is made of. Every filter that is counted
for has one count, in order; then the documents that pass the stages of the caller and the filters
are counted; and unless only the count is asked for, the page is fetched through the same stages,
sorted unless they sort already, through the final stages of the caller and the window of the page.
The page names the counted total and holds the rows that are answered. -/
theorem count_and_page_agree {engine : Engine} {collection : String} {request : Request}
    {options : Options} {initial final : List Stage} {page : Page}
    (fetched : ((fetchList collection request options initial final).run engine).1 = .ok page) :
    ∃ (parameters : Parameters) (selected : List Stage) (counts : List ShareCount)
        (rows : List Value),
      let asked := PageRequest.ofParameters parameters options
      let filters := parameters.confined options
      let counted := initial ++ selected
      let sorted := if hasStage "$sort" counted then [] else [sortStage asked options]
      let window :=
        if asked.unpaged = true ∨ asked.limit ≤ 0 then []
        else [.skip ((asked.page - 1) * asked.limit), .limit asked.limit]
      let shareCalls := counts.map (ShareCount.call collection)
      let countCall := Call.counting collection counted
      let pageCall := Call.fetching collection (counted ++ sorted ++ final ++ window)
      request.parameters = .ok parameters ∧
        ((compileShares collection filters).run engine).1 = .ok selected ∧
        counts.map (·.filter) = filters.filter Filter.isCounted ∧
        (∀ count ∈ counts, count.IsMadeFor filters ∧ count.stages <+: selected) ∧
        ((fetchList collection request options initial final).run engine).2.calls =
          shareCalls ++ countCall :: (if asked.countOnly then [] else [pageCall]) ∧
        engine shareCalls countCall = .rows rows ∧ Session.totalOf rows = .ok page.total ∧
        if asked.countOnly then page.items = []
        else engine (shareCalls ++ [countCall]) pageCall = .rows page.items := by
  obtain ⟨parameters, selected, between, read, compiled, builds, step⟩ := fetchList_eq_ok fetched
  obtain ⟨counts, sent, owners, -, made⟩ := builds.counts
  obtain ⟨total, items, counted, page, ends⟩ := step.made
  rw [Trace.calls_empty, List.nil_append] at sent
  rw [sent] at counted ends
  obtain ⟨rows, answered, told⟩ := Engine.total_counting_eq_ok counted
  rw [← makePage_total page] at told
  rw [← makePage_items page, pagePipeline, pageStages_eq] at ends
  refine ⟨parameters, selected, counts, rows, read, by rw [compiled], owners, made, ?_⟩
  obtain ⟨asked, none, calls⟩ | ⟨asked, found, calls⟩ := ends
  · rw [asked]
    exact ⟨calls, answered, told, none⟩
  · rw [asked]
    exact ⟨by simpa using calls, answered, told, Engine.rows_fetching_eq_ok found⟩

/-- A request for the second page, three to a page, of what is sold among the last half of what
costs something. -/
def soldRequest : Request :=
  .written "/items?filter=price|amount|gt|0|-50&filter=status|string|eq|sold&page=2&limit=3"

/-- An engine that counts ten documents, then four, and then yields one. -/
def soldEngine : Engine :=
  .scripted [.rows [.object [("total", .int 10)]], .rows [.object [("total", .int 4)]],
    .rows [.object [("id", .int 7)]]]

/-- The parameters of the request. -/
def soldParameters : Parameters :=
  [("filter", "price|amount|gt|0|-50"), ("filter", "status|string|eq|sold"), ("page", "2"),
    ("limit", "3")]

/-- The second page of what is sold is made of three calls: the half is counted, what is sold of it
is counted, and the page is fetched by the last update, behind three documents and with three. -/
theorem sold_page_agrees :
    let run := (fetchList "products" soldRequest .default [] []).run soldEngine
    soldRequest.parameters = .ok soldParameters ∧
      ∃ page, run.1 = .ok page ∧ page.total = 4 ∧ page.items.length = 1 ∧
        run.2.calls.length = 3 ∧
        ∃ (selected : List Stage) (counts : List ShareCount) (rows : List Value),
          counts.map (·.filter) = (soldParameters.confined .default).filter Filter.isCounted ∧
            run.2.calls = counts.map (ShareCount.call "products") ++
              [.counting "products" selected, .fetching "products" (selected ++
                (if hasStage "$sort" selected then [] else [.sort "updatedAt" .descending]) ++
                  [.skip 3, .limit 3])] ∧
            soldEngine (counts.map (ShareCount.call "products")) (.counting "products" selected) =
              .rows rows ∧
            Session.totalOf rows = .ok page.total := by
  have told : (((fetchList "products" soldRequest .default [] []).run soldEngine).1.toOption.map
      fun page => (page.total, page.items.length)) = some (4, 1) := by decide +kernel
  have given : soldRequest.parameters = .ok soldParameters :=
    eq_ok_of_toOption (by decide +kernel)
  obtain ⟨page, found, same⟩ := Option.map_eq_some_iff.mp told
  obtain ⟨total, items⟩ := Prod.mk.inj same
  have fetched := eq_ok_of_toOption found
  obtain ⟨parameters, selected, counts, rows, read, -, owners, -, calls, answered, named, -⟩ :=
    count_and_page_agree fetched
  cases given.symm.trans read
  rw [List.append_nil] at calls
  exact ⟨given, page, fetched, total, items, by decide +kernel, selected, counts, rows, owners,
    calls, answered, named⟩

end QueryPipeline
